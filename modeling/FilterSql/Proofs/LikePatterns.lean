import FilterSql.Proofs.Rendered
import FilterSql.Query
import Mathlib.Data.List.Infix

/-!
Patterns bound for `co`, `sw` and `ew`, and the texts that `LIKE` finds with them. A pattern finds every
text that it should. It finds no others exactly when the value has no wildcard of its own, and for a
value that has one no pattern would.
-/

namespace FilterSql

/-! ## Patterns -/

def isWildcard (c : Char) : Bool :=
  c == '%' || c == '_'

/-- A text matches a pattern when `%` stands for any characters, `_` for any one character, and every
other character for itself. -/
inductive Like : List Char → List Char → Prop
  | done : Like [] []
  | any (skipped : List Char) {pattern text : List Char} :
      Like pattern text → Like ('%' :: pattern) (skipped ++ text)
  | one (c : Char) {pattern text : List Char} :
      Like pattern text → Like ('_' :: pattern) (c :: text)
  | same {c : Char} {pattern text : List Char} (plain : isWildcard c = false) :
      Like pattern text → Like (c :: pattern) (c :: text)

theorem Like.append {p q s t : List Char} (hp : Like p s) (hq : Like q t) :
    Like (p ++ q) (s ++ t) := by
  induction hp with
  | done => exact hq
  | any skipped _ ih =>
    rw [List.append_assoc]
    exact .any skipped ih
  | one c _ ih => exact .one c ih
  | same plain _ ih => exact .same plain ih

theorem Like.split {p q u : List Char} (h : Like (p ++ q) u) :
    ∃ s t, u = s ++ t ∧ Like p s ∧ Like q t := by
  induction p generalizing u with
  | nil => exact ⟨[], u, rfl, .done, h⟩
  | cons c p ih =>
    cases h with
    | any skipped rest =>
      obtain ⟨s, t, rfl, hp, hq⟩ := ih rest
      exact ⟨skipped ++ s, t, (List.append_assoc ..).symm, .any skipped hp, hq⟩
    | one d rest =>
      obtain ⟨s, t, rfl, hp, hq⟩ := ih rest
      exact ⟨d :: s, t, rfl, .one d hp, hq⟩
    | same plain rest =>
      obtain ⟨s, t, rfl, hp, hq⟩ := ih rest
      exact ⟨c :: s, t, rfl, .same plain hp, hq⟩

theorem like_append_iff {p q u : List Char} :
    Like (p ++ q) u ↔ ∃ s t, u = s ++ t ∧ Like p s ∧ Like q t := by
  constructor
  · intro h
    exact h.split
  · rintro ⟨s, t, rfl, hp, hq⟩
    exact hp.append hq

theorem like_any (s : List Char) : Like ['%'] s := by
  have whole := Like.any s .done
  rwa [List.append_nil] at whole

/-- A text matches itself, whatever wildcards it has. -/
theorem like_self (v : List Char) : Like v v := by
  induction v with
  | nil => exact .done
  | cons c v ih =>
    by_cases percent : c = '%'
    · subst percent
      exact .any ['%'] ih
    · by_cases underscore : c = '_'
      · subst underscore
        exact .one '_' ih
      · exact .same (by simp [isWildcard, percent, underscore]) ih

theorem like_plain_iff {v : List Char} (plain : ∀ c ∈ v, isWildcard c = false) {s : List Char} :
    Like v s ↔ s = v := by
  constructor
  · intro h
    induction h with
    | done => rfl
    | any skipped _ _ => exact absurd (plain '%' (List.mem_cons_self ..)) (by decide)
    | one c _ _ => exact absurd (plain '_' (List.mem_cons_self ..)) (by decide)
    | same _ _ ih => rw [ih fun d member => plain d (List.mem_cons_of_mem _ member)]
  · rintro rfl
    exact like_self s

/-! ## Parts of a text -/

/-- What the operators that look for a part of a text ask for. -/
def Operator.Finds (op : Operator) (v s : List Char) : Prop :=
  match op with
  | contains => v <:+: s
  | startsWith => v <+: s
  | endsWith => v <:+ s
  | _ => False

namespace Operator

variable {op : Operator}

theorem finds_self (part : op.matchesPart = true) (v : List Char) : op.Finds v v := by
  cases op with
  | contains => exact List.infix_refl v
  | startsWith => exact List.prefix_refl v
  | endsWith => exact List.suffix_refl v
  | _ => cases part

theorem Finds.subset {v s : List Char} (h : op.Finds v s) : v ⊆ s := by
  cases op with
  | contains => exact List.IsInfix.subset h
  | startsWith => exact List.IsPrefix.subset h
  | endsWith => exact List.IsSuffix.subset h
  | _ => cases h

/-- With the wildcards around it, a value finds the parts that it matches by itself. -/
theorem like_likePattern_iff (part : op.matchesPart = true) (v : String) (s : List Char) :
    Like (op.likePattern v).toList s ↔ ∃ found, Like v.toList found ∧ op.Finds found s := by
  cases op with
  | contains =>
    have shape : (contains.likePattern v).toList = ['%'] ++ (v.toList ++ ['%']) := by
      simp [likePattern]
    rw [shape, like_append_iff]
    constructor
    · rintro ⟨before, rest, rfl, -, h⟩
      obtain ⟨found, after, rfl, matched, -⟩ := h.split
      exact ⟨found, matched, before, after, List.append_assoc ..⟩
    · rintro ⟨found, matched, before, after, rfl⟩
      refine ⟨before, found ++ after, List.append_assoc .., like_any before, ?_⟩
      exact matched.append (like_any after)
  | startsWith =>
    have shape : (startsWith.likePattern v).toList = v.toList ++ ['%'] := by
      simp [likePattern]
    rw [shape, like_append_iff]
    constructor
    · rintro ⟨found, after, rfl, matched, -⟩
      exact ⟨found, matched, after, rfl⟩
    · rintro ⟨found, matched, after, rfl⟩
      exact ⟨found, after, rfl, matched, like_any after⟩
  | endsWith =>
    have shape : (endsWith.likePattern v).toList = ['%'] ++ v.toList := by
      simp [likePattern]
    rw [shape, like_append_iff]
    constructor
    · rintro ⟨before, found, rfl, -, matched⟩
      exact ⟨found, matched, before, rfl⟩
    · rintro ⟨found, matched, before, rfl⟩
      exact ⟨before, found, rfl, like_any before, matched⟩
  | _ => cases part

theorem likePattern_finds (part : op.matchesPart = true) {v : String} {s : List Char}
    (h : op.Finds v.toList s) : Like (op.likePattern v).toList s :=
  (like_likePattern_iff part v s).mpr ⟨v.toList, like_self _, h⟩

theorem likePattern_finds_iff (part : op.matchesPart = true) {v : String}
    (plain : ∀ c ∈ v.toList, isWildcard c = false) (s : List Char) :
    Like (op.likePattern v).toList s ↔ op.Finds v.toList s := by
  rw [like_likePattern_iff part]
  constructor
  · rintro ⟨found, matched, h⟩
    rwa [(like_plain_iff plain).mp matched] at h
  · intro h
    exact ⟨v.toList, like_self _, h⟩

end Operator

/-! ## Values with wildcards -/

/-- The character, or some other one in the place of a wildcard. -/
def withoutWildcard (c : Char) : Char :=
  if isWildcard c then 'x' else c

theorem isWildcard_withoutWildcard (c : Char) : isWildcard (withoutWildcard c) = false := by
  unfold withoutWildcard
  by_cases wild : isWildcard c = true
  · rw [if_pos wild]
    decide
  · rw [if_neg wild]
    simpa using wild

/-- No pattern asks for a wildcard character: where a text has one, any other would do. -/
theorem Like.withoutWildcards {pattern text : List Char} (h : Like pattern text) :
    Like pattern (text.map withoutWildcard) := by
  induction h with
  | done => exact .done
  | any skipped _ ih =>
    rw [List.map_append]
    exact .any _ ih
  | one c _ ih => exact .one _ ih
  | @same c _ _ plain _ ih =>
    have kept : withoutWildcard c = c := by simp [withoutWildcard, plain]
    rw [List.map_cons, kept]
    exact .same plain ih

/-- Whatever pattern is bound for it, a value that the pattern finds exactly has no wildcards. -/
theorem Operator.plain_of_exact {op : Operator} (part : op.matchesPart = true)
    {pattern v : List Char} (exactly : ∀ s, Like pattern s ↔ op.Finds v s) :
    ∀ c ∈ v, isWildcard c = false := by
  have itself : Like pattern v := (exactly v).mpr (finds_self part v)
  have found := (exactly _).mp itself.withoutWildcards
  intro c member
  obtain ⟨d, -, rfl⟩ := List.mem_map.mp (found.subset member)
  exact isWildcard_withoutWildcard d

/-! ## The value bound -/

/-- A quoted literal as it was written. -/
def Literal.quoted? : Literal → Option String
  | text s => some s
  | timestamp raw _ => some raw
  | _ => none

namespace Renderer

theorem render_part {r : Renderer} {path : String} {column : Column} {op : Operator}
    {value : Literal} {v : String} (resolved : r.resolver.resolve path = .ok column)
    (kind : column.kind = .text) (part : op.matchesPart = true) (quoted : value.quoted? = some v)
    (b : Bindings) :
    r.render (.compare path op value) b =
      (.ok (.compare column.name .like (Bindings.placeholder b.size) (!r.caseInsensitive)),
        b.push (.text (op.likePattern v))) := by
  have fits : fit? .text op value = some (.text (op.likePattern v)) ∧ value.isTextual = true := by
    cases value with
    | text s | timestamp s instant =>
      cases quoted
      exact ⟨rfl, rfl⟩
    | number n | boolean b => cases quoted
  have like : op.comparison? = some .like := by
    cases op with
    | contains | startsWith | endsWith => rfl
    | _ => cases part
  have compared : r.compare column op value =
      .ok (.compare column.name .like (.text (op.likePattern v)) (!r.caseInsensitive)) := by
    simp [Renderer.compare, like, kind, ColumnKind.isTyped, fits, folds]
  simp only [render, comparison, resolved, Except.bind, compared, renderCondition, place, Bindings.bind]

/-- On a text column `co`, `sw` and `ew` bind a pattern that finds every text which contains, starts
with or ends with the value. It finds only those exactly when the value has neither `%` nor `_`; for a
value that has one of them, no other pattern would either. -/
theorem part_patterns_exact_iff (r : Renderer) (b : Bindings) (path v : String) (column : Column)
    (op : Operator) (value : Literal) (resolved : r.resolver.resolve path = .ok column)
    (kind : column.kind = .text) (part : op ∈ [.contains, .startsWith, .endsWith])
    (quoted : value.quoted? = some v) :
    ∃ pattern, r.render (.compare path op value) b =
        (.ok (.compare column.name .like (Bindings.placeholder b.size) (!r.caseInsensitive)),
          b.push (.text pattern)) ∧
      (∀ s : String, op.Finds v.toList s.toList → Like pattern.toList s.toList) ∧
      ((∀ s : String, Like pattern.toList s.toList ↔ op.Finds v.toList s.toList) ↔
        ∀ c ∈ v.toList, c ≠ '%' ∧ c ≠ '_') ∧
      ∀ other : String, (∀ s : String, Like other.toList s.toList ↔ op.Finds v.toList s.toList) →
        ∀ c ∈ v.toList, c ≠ '%' ∧ c ≠ '_' := by
  have matchesPart := Operator.matchesPart_iff.mpr part
  have wildcards : (∀ c ∈ v.toList, isWildcard c = false) ↔ ∀ c ∈ v.toList, c ≠ '%' ∧ c ≠ '_' := by
    simp [isWildcard]
  have only (other : String)
      (exactly : ∀ s : String, Like other.toList s.toList ↔ op.Finds v.toList s.toList) :
      ∀ c ∈ v.toList, c ≠ '%' ∧ c ≠ '_' := by
    have exactly' (s : List Char) : Like other.toList s ↔ op.Finds v.toList s := by
      have given := exactly (String.ofList s)
      rwa [String.toList_ofList] at given
    exact wildcards.mp (Operator.plain_of_exact matchesPart exactly')
  refine ⟨op.likePattern v, render_part resolved kind matchesPart quoted b, ?_, ⟨only _, ?_⟩, only⟩
  · intro s found
    exact Operator.likePattern_finds matchesPart found
  · intro plain s
    exact Operator.likePattern_finds_iff matchesPart (wildcards.mpr plain) s.toList

theorem part_patterns_exact_iff_starting :
    let r : Renderer := ⟨⟨id, none⟩, false⟩
    r.resolver.resolve "displayName" = .ok ⟨"displayName", .text⟩ ∧
      r.render (.compare "displayName" .startsWith (.text "scim.")) .empty =
        (.ok (.compare "displayName" .like "__value_0" true), ⟨[("__value_0", .text "scim.%")]⟩) ∧
      ∀ s : String, Like "scim.%".toList s.toList ↔ "scim.".toList <+: s.toList := by
  intro r
  have resolved : r.resolver.resolve "displayName" = .ok ⟨"displayName", .text⟩ := by decide
  have rendered : r.render (.compare "displayName" .startsWith (.text "scim.")) .empty =
      (.ok (.compare "displayName" .like "__value_0" true), ⟨[("__value_0", .text "scim.%")]⟩) := by decide
  obtain ⟨pattern, rendered', -, ⟨-, exactly⟩, -⟩ := part_patterns_exact_iff r .empty "displayName"
    "scim." ⟨"displayName", .text⟩ .startsWith (.text "scim.") resolved rfl (by decide) rfl
  have plain : ∀ c ∈ "scim.".toList, c ≠ '%' ∧ c ≠ '_' := by simp
  cases rendered.symm.trans rendered'
  exact ⟨resolved, rendered, exactly plain⟩

end Renderer

/-- A value that is a wildcard finds texts without it: `co "_"` matches every text but the empty one. -/
theorem contains_underscore_finds_other :
    let c : Converter := ⟨id, {}⟩
    ∃ q, c.convert (some "userName co \"_\"") none .ascending = .ok q ∧
      q.sql = "LOWER(userName) LIKE LOWER(:__value_0)" ∧
      q.bindings.get? "__value_0" = some (.text "%_%") ∧
      Like "%_%".toList "joe".toList ∧ ¬ "_".toList <:+: "joe".toList := by
  intro c
  let q : Query := ⟨some (.compare "userName" .like "__value_0" true), none,
    ⟨[("__value_0", .text "%_%")]⟩⟩
  have converted : c.convert (some "userName co \"_\"") none .ascending = .ok q := by decide +kernel
  have found : Like "%_%".toList "joe".toList := .any [] (.one 'j' (.any ['o', 'e'] .done))
  refine ⟨q, converted, by decide, by decide, found, ?_⟩
  intro contained
  have member : '_' ∈ "joe".toList := contained.subset (by decide)
  exact absurd member (by decide)

end FilterSql
