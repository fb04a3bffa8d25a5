import FilterSql.Proofs.Rendered
import Mathlib.Data.List.Infix

/-!
Kinds of columns. A built-in attribute keeps its kind under every name, and all others take the kind of
the column that they lead to. Attributes that lead to one column agree on its kind if they are at home
there; one that is and one that is not always differ.
-/

namespace FilterSql

theorem ColumnKind.isTyped_of_ne_text {kind : ColumnKind} (h : kind ≠ .text) :
    kind.isTyped = true := by
  cases kind with
  | text => exact absurd rfl h
  | integer | timestamp => rfl

namespace BuiltIn

theorem mem_of_ofAttribute? {path : String} {b : BuiltIn} (h : ofAttribute? path = some b) :
    b ∈ all :=
  List.mem_of_find?_eq_some h

/-- Every built-in column is found by its name. -/
theorem ofColumn?_column {b : BuiltIn} (h : b ∈ all) : ofColumn? b.column.name = some b := by
  have checked : all.all (fun b => ofColumn? b.column.name == some b) = true := rfl
  exact beq_iff_eq.mp (List.all_eq_true.mp checked b h)

theorem kind_ne_text {b : BuiltIn} (h : b ∈ all) : b.column.kind ≠ .text := by
  have checked : all.all (fun b => b.column.kind != .text) = true := rfl
  exact bne_iff_ne.mp (List.all_eq_true.mp checked b h)

end BuiltIn

namespace Resolver

/-- The attribute is not built in, or it stays in its own column or is led to another one of its kind. -/
def AtHome (r : Resolver) (path : String) : Prop :=
  ∀ b, BuiltIn.ofAttribute? path = some b → r.rename path = path ∨
    ∃ b', BuiltIn.ofColumn? (r.columnName path) = some b' ∧ b'.column.kind = b.column.kind

theorem columnName_of_unrenamed {r : Resolver} {path : String} {b : BuiltIn}
    (builtIn : BuiltIn.ofAttribute? path = some b) (unrenamed : r.rename path = path) :
    r.columnName path = b.column.name := by
  simp [columnName, builtIn, unrenamed]

/-- The kind of a column, as far as its name tells. -/
def nameKind (name : String) : ColumnKind :=
  (BuiltIn.ofColumn? name).elim .text fun b => b.column.kind

variable {r : Resolver} {path : String} {column : Column}

theorem kind_of_builtIn {b : BuiltIn} (builtIn : BuiltIn.ofAttribute? path = some b)
    (resolved : r.resolve path = .ok column) : column.kind = b.column.kind := by
  obtain ⟨-, -, rfl⟩ := resolve_ok resolved
  simp only [kind, builtIn, Option.some_or]

theorem kind_of_free (free : BuiltIn.ofAttribute? path = none)
    (resolved : r.resolve path = .ok column) : column.kind = nameKind column.name := by
  obtain ⟨-, -, rfl⟩ := resolve_ok resolved
  simp only [kind, nameKind, free, Option.none_or]
  cases BuiltIn.ofColumn? (r.columnName path) <;> rfl

theorem AtHome.kind_eq (home : r.AtHome path) (resolved : r.resolve path = .ok column) :
    column.kind = nameKind column.name := by
  cases builtIn : BuiltIn.ofAttribute? path with
  | none => exact kind_of_free builtIn resolved
  | some b =>
    have name : column.name = r.columnName path := by
      obtain ⟨-, -, rfl⟩ := resolve_ok resolved
      rfl
    rw [kind_of_builtIn builtIn resolved, name, nameKind]
    obtain unrenamed | ⟨b', found, sameKind⟩ := home b builtIn
    · rw [columnName_of_unrenamed builtIn unrenamed,
        BuiltIn.ofColumn?_column (BuiltIn.mem_of_ofAttribute? builtIn), Option.elim_some]
    · rw [found]
      exact sameKind.symm

/-- The attributes at home are those with the kind that the name of their column tells. -/
theorem atHome_iff (resolved : r.resolve path = .ok column) :
    r.AtHome path ↔ column.kind = nameKind column.name := by
  refine ⟨fun home => home.kind_eq resolved, ?_⟩
  intro told b builtIn
  rw [kind_of_builtIn builtIn resolved, nameKind, (resolve_ok resolved).2.2] at told
  refine .inr ?_
  cases found : BuiltIn.ofColumn? (r.columnName path) with
  | none =>
    rw [found] at told
    exact absurd told (BuiltIn.kind_ne_text (BuiltIn.mem_of_ofAttribute? builtIn))
  | some b' =>
    rw [found] at told
    exact ⟨b', rfl, told.symm⟩

theorem builtIn_of_away (away : ¬ r.AtHome path) : ∃ b, BuiltIn.ofAttribute? path = some b := by
  by_contra free
  exact away fun b builtIn => absurd ⟨b, builtIn⟩ free

end Resolver

/-- Whether case is ignored. -/
def Condition.isFolded : Condition → Bool
  | notNull _ => false
  | compare _ _ _ folded => folded

theorem Renderer.not_folded_of_typed {r : Renderer} {path : String} {op : Operator} {value : Literal}
    {condition : Condition} {column : Column} (resolved : r.resolver.resolve path = .ok column)
    (typed : column.kind.isTyped = true) (found : r.comparison path op value = .ok condition) :
    condition.isFolded = false := by
  obtain ⟨column', resolved', ⟨-, rfl⟩ | ⟨k, v, -, -, rfl⟩⟩ := comparison_ok found
  · rfl
  · rw [resolved] at resolved'
    cases resolved'
    simp [Condition.isFolded, Renderer.folds, typed]

/-- No built-in column is of text, so case counts wherever a built-in attribute leads. -/
theorem Renderer.not_folded_of_builtIn {r : Renderer} {path : String} {b : BuiltIn} {op : Operator}
    {value : Literal} {condition : Condition} (builtIn : BuiltIn.ofAttribute? path = some b)
    (found : r.comparison path op value = .ok condition) : condition.isFolded = false := by
  obtain ⟨column, resolved, -⟩ := comparison_ok found
  have notText : column.kind ≠ .text := by
    rw [Resolver.kind_of_builtIn builtIn resolved]
    exact BuiltIn.kind_ne_text (BuiltIn.mem_of_ofAttribute? builtIn)
  exact not_folded_of_typed resolved (ColumnKind.isTyped_of_ne_text notText) found

namespace Resolver

/-- Of two attributes that lead to the same column, both get the same kind if they are at home there, and
then no comparison ignores case on a column that is not of text. A built-in attribute has its own kind
wherever it leads, so two of them agree exactly when their own kinds do, and no comparison with one ignores
case. An attribute at home and one away from home never agree. -/
theorem column_kinds_agree (r : Resolver) (a b : String) (ca cb : Column)
    (ha : r.resolve a = .ok ca) (hb : r.resolve b = .ok cb) (same : ca.name = cb.name) :
    (r.AtHome a → r.AtHome b → ca.kind = cb.kind ∧
      (ca.kind ≠ .text → ∀ caseInsensitive, ∀ path ∈ [a, b], ∀ op value condition,
        Renderer.comparison ⟨r, caseInsensitive⟩ path op value = .ok condition →
        condition.isFolded = false)) ∧
    (∀ x y, BuiltIn.ofAttribute? a = some x → BuiltIn.ofAttribute? b = some y →
      (ca.kind = cb.kind ↔ x.column.kind = y.column.kind)) ∧
    (ca.kind = cb.kind ↔ r.AtHome a ∧ r.AtHome b ∨ ¬ r.AtHome a ∧ ¬ r.AtHome b ∧
      ∃ x y, BuiltIn.ofAttribute? a = some x ∧ BuiltIn.ofAttribute? b = some y ∧
        x.column.kind = y.column.kind) ∧
    ∀ path ∈ [a, b], ∀ x, BuiltIn.ofAttribute? path = some x →
      ∀ caseInsensitive op value condition,
        Renderer.comparison ⟨r, caseInsensitive⟩ path op value = .ok condition →
        condition.isFolded = false := by
  have own : ∀ x y, BuiltIn.ofAttribute? a = some x → BuiltIn.ofAttribute? b = some y →
      (ca.kind = cb.kind ↔ x.column.kind = y.column.kind) := by
    intro x y builtInA builtInB
    rw [kind_of_builtIn builtInA ha, kind_of_builtIn builtInB hb]
  refine ⟨?_, own, ?_, ?_⟩
  · intro homeA homeB
    have agree : ca.kind = cb.kind := by
      rw [homeA.kind_eq ha, homeB.kind_eq hb, same]
    refine ⟨agree, ?_⟩
    intro notText caseInsensitive path member op value condition found
    have typed : ca.kind.isTyped = true := ColumnKind.isTyped_of_ne_text notText
    simp only [List.mem_cons, List.not_mem_nil, or_false] at member
    rcases member with rfl | rfl
    · exact Renderer.not_folded_of_typed (r := ⟨r, caseInsensitive⟩) ha typed found
    · exact Renderer.not_folded_of_typed (r := ⟨r, caseInsensitive⟩) hb (agree ▸ typed) found
  · rw [atHome_iff ha, atHome_iff hb, ← same]
    by_cases homeA : ca.kind = nameKind ca.name
    · simp [homeA, eq_comm]
    · by_cases homeB : cb.kind = nameKind ca.name
      · simp [homeA, homeB]
      · obtain ⟨x, builtInA⟩ := builtIn_of_away (mt (atHome_iff ha).mp homeA)
        obtain ⟨y, builtInB⟩ := builtIn_of_away (mt (atHome_iff hb).mp (same ▸ homeB))
        simp [homeA, homeB, own x y builtInA builtInB, builtInA, builtInB]
  · intro path _ x builtIn caseInsensitive op value condition found
    exact Renderer.not_folded_of_builtIn builtIn found

theorem column_kinds_agree_renamed :
    let r : Resolver :=
      ⟨fun path => if path = "meta.lastModified" then "created" else path, some ["created"]⟩
    r.resolve "meta.lastModified" = .ok ⟨"created", .timestamp⟩ ∧
      r.resolve "created" = .ok ⟨"created", .timestamp⟩ ∧
      r.AtHome "meta.lastModified" ∧ r.AtHome "created" ∧
      ∀ op value condition,
        Renderer.comparison ⟨r, false⟩ "created" op value = .ok condition →
        condition.isFolded = false := by
  intro r
  have first : r.resolve "meta.lastModified" = .ok ⟨"created", .timestamp⟩ := by decide +kernel
  have second : r.resolve "created" = .ok ⟨"created", .timestamp⟩ := by decide +kernel
  have moved : r.AtHome "meta.lastModified" := by
    intro b builtIn
    have found : BuiltIn.ofAttribute? "meta.lastModified" =
        some ⟨"meta.lastModified", ⟨"lastModified", .timestamp⟩⟩ := by decide +kernel
    rw [found] at builtIn
    cases builtIn
    exact .inr ⟨⟨"meta.created", ⟨"created", .timestamp⟩⟩, by decide +kernel, rfl⟩
  have direct : r.AtHome "created" := by
    intro b builtIn
    have free : BuiltIn.ofAttribute? "created" = none := by decide +kernel
    rw [free] at builtIn
    cases builtIn
  obtain ⟨agree, -⟩ := column_kinds_agree r _ _ _ _ first second rfl
  refine ⟨first, second, moved, direct, ?_⟩
  intro op value condition
  exact (agree moved direct).2 (by decide) false "created" (by simp) op value condition

/-- Two built-in attributes that are led to one column give it both their kinds. Led to the column of an
attribute that is not built in, one of them gives it a kind that this attribute does not see, and comparisons
through this attribute ignore case. -/
theorem built_ins_share_column :
    let led : Resolver := ⟨fun _ => "x", none⟩
    let renamed : Resolver :=
      ⟨fun path => if path = "meta.created" then "created_at" else path, none⟩
    (led.resolve "meta.version" = .ok ⟨"x", .integer⟩ ∧
      led.resolve "meta.created" = .ok ⟨"x", .timestamp⟩ ∧ ColumnKind.integer ≠ .timestamp) ∧
    renamed.resolve "meta.created" = .ok ⟨"created_at", .timestamp⟩ ∧
      renamed.resolve "created_at" = .ok ⟨"created_at", .text⟩ ∧ ColumnKind.timestamp ≠ .text ∧
      Renderer.comparison ⟨renamed, false⟩ "created_at" .equal (.text "2024") =
        .ok (.compare "created_at" .equal (.text "2024") true) := by
  decide +kernel

end Resolver

end FilterSql
