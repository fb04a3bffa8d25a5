import FilterSql.Proofs.Grammar
import FilterSql.Proofs.SpelledTokens

/-!
Filters printed with no more parentheses than they need. Reading undoes printing, and nothing but
well-formed filters whose printing stays within the limits is ever read.
-/

namespace FilterSql

/-! ## Levels -/

namespace Rank

/-- What stands at one level stands at every looser one. -/
def looseness : Rank → Nat
  | term => 0
  | conjunction => 1
  | expression => 2

/-- The level is one of the grammar's. -/
def Offered (p : Precedence) (r : Rank) : Prop :=
  p = .andBindsTighter ∨ r ≠ .conjunction

theorem looseness_le (r : Rank) : r.looseness ≤ expression.looseness := by
  cases r <;> decide

end Rank

namespace Connective

/-- The level at which two filters joined by the connective stand; the left one stands at it too. -/
def rank : Precedence → Connective → Rank
  | .andBindsTighter, and => .conjunction
  | _, _ => .expression

/-- The level of the right one of two joined filters. -/
def rightRank : Precedence → Connective → Rank
  | .andBindsTighter, or => .conjunction
  | _, _ => .term

theorem rank_offered (p : Precedence) (c : Connective) : (c.rank p).Offered p := by
  cases p with
  | andBindsTighter => exact .inl rfl
  | leftToRight => exact .inr nofun

theorem rightRank_offered (p : Precedence) (c : Connective) : (c.rightRank p).Offered p := by
  cases p with
  | andBindsTighter => exact .inl rfl
  | leftToRight => exact .inr nofun

end Connective

namespace Derives

variable {p : Precedence} {rank : Rank} {ts us : List Token} {e f : Filter}

theorem join (c : Connective) (left : Derives p (c.rank p) ts e)
    (right : Derives p (c.rightRank p) us f) :
    Derives p (c.rank p) (ts ++ .connective c :: us) (.join c e f) := by
  cases p with
  | leftToRight => exact .chain c left right
  | andBindsTighter =>
    cases c with
    | and => exact .conjunction left right
    | or => exact .disjunction left right

theorem loosen {looser : Rank} (h : Derives p rank ts e)
    (le : rank.looseness ≤ looser.looseness) (offered : looser.Offered p) :
    Derives p looser ts e := by
  cases p with
  | leftToRight =>
    cases rank with
    | term =>
      cases looser with
      | term => exact h
      | conjunction => exact absurd rfl (offered.resolve_left nofun)
      | expression => exact .chainStart h
    | conjunction => cases h
    | expression =>
      cases looser with
      | expression => exact h
      | _ => exact absurd le (by decide)
  | andBindsTighter =>
    cases rank with
    | term =>
      cases looser with
      | term => exact h
      | conjunction => exact .conjunctionStart h
      | expression => exact .disjunctionStart (.conjunctionStart h)
    | conjunction =>
      cases looser with
      | term => exact absurd le (by decide)
      | conjunction => exact h
      | expression => exact .disjunctionStart h
    | expression =>
      cases looser with
      | expression => exact h
      | _ => exact absurd le (by decide)

/-- Derivations by what they are made of: tests, groups, joins, and steps to a looser level. -/
@[elab_as_elim]
theorem levels
    {motive : (rank : Rank) → (ts : List Token) → (e : Filter) → Derives p rank ts e → Prop}
    (present : ∀ path, motive .term [.identifier path, .operator .present] (.present path)
      (.present path))
    (compare : ∀ path op value (valued : op ≠ .present),
      motive .term [.identifier path, .operator op, .literal value] (.compare path op value)
        (.compare path value valued))
    (group : ∀ ts e (h : Derives p .expression ts e), motive .expression ts e h →
      motive .term (.opening :: (ts ++ [.closing])) e (.group h))
    (loosen : ∀ rank looser ts e (h : Derives p rank ts e)
      (le : rank.looseness ≤ looser.looseness) (offered : looser.Offered p), motive rank ts e h →
      motive looser ts e (h.loosen le offered))
    (join : ∀ c ts us e f (left : Derives p (c.rank p) ts e)
      (right : Derives p (c.rightRank p) us f),
      motive (c.rank p) ts e left → motive (c.rightRank p) us f right →
      motive (c.rank p) (ts ++ .connective c :: us) (.join c e f) (left.join c right))
    (h : Derives p rank ts e) : motive rank ts e h := by
  induction h with
  | present path => exact present path
  | compare path value valued => exact compare path _ value valued
  | group h ih => exact group _ _ h (ih present compare group loosen join)
  | chainStart h ih =>
    exact loosen .term .expression _ _ h (by decide) (.inr nofun)
      (ih present compare group loosen join)
  | chain c hl hr ihl ihr =>
    exact join c _ _ _ _ hl hr (ihl present compare group loosen join)
      (ihr present compare group loosen join)
  | conjunctionStart h ih =>
    exact loosen _ _ _ _ h (by decide) (.inl rfl) (ih present compare group loosen join)
  | conjunction hl hr ihl ihr =>
    exact join .and _ _ _ _ hl hr (ihl present compare group loosen join)
      (ihr present compare group loosen join)
  | disjunctionStart h ih =>
    exact loosen _ _ _ _ h (by decide) (.inl rfl) (ih present compare group loosen join)
  | disjunction hl hr ihl ihr =>
    exact join .or _ _ _ _ hl hr (ihl present compare group loosen join)
      (ihr present compare group loosen join)

end Derives

/-! ## Printing -/

namespace Filter

/-- A filter whose paths and values a text can have, and whose operators before values take one. -/
def WellFormed : Filter → Prop
  | present path => IsIdentifier path
  | compare path op value => IsIdentifier path ∧ op ≠ .present ∧ value.Lexable
  | join _ left right => left.WellFormed ∧ right.WellFormed

instance decidableWellFormed : DecidablePred WellFormed
  | present path => inferInstanceAs (Decidable (IsIdentifier path))
  | compare path op value =>
    inferInstanceAs (Decidable (IsIdentifier path ∧ op ≠ .present ∧ value.Lexable))
  | join _ left right =>
    haveI := decidableWellFormed left
    haveI := decidableWellFormed right
    inferInstanceAs (Decidable (left.WellFormed ∧ right.WellFormed))

def joins : Filter → Nat
  | join _ left right => left.joins + 1 + right.joins
  | _ => 0

/-- The tokens of the filter where the given level is read. Joined filters are put in parentheses
exactly where that level does not take them as they are. -/
def printed (p : Precedence) : Rank → Filter → List Token
  | _, present path => [.identifier path, .operator .present]
  | _, compare path op value => [.identifier path, .operator op, .literal value]
  | rank, join c left right =>
    let inner := left.printed p (c.rank p) ++ .connective c :: right.printed p (c.rightRank p)
    if (c.rank p).looseness ≤ rank.looseness then inner else .opening :: (inner ++ [.closing])

theorem printed_join (p : Precedence) (c : Connective) (left right : Filter) :
    (join c left right).printed p (c.rank p) =
      left.printed p (c.rank p) ++ .connective c :: right.printed p (c.rightRank p) :=
  if_pos (Nat.le_refl _)

/-- At a looser level a filter loses its parentheses or stays as it is. -/
theorem printed_loosen (p : Precedence) {rank looser : Rank}
    (le : rank.looseness ≤ looser.looseness) (e : Filter) :
    e.printed p rank = e.printed p looser ∨
      e.printed p rank = .opening :: (e.printed p looser ++ [.closing]) := by
  cases e with
  | join c left right =>
    simp only [printed]
    by_cases bare : (c.rank p).looseness ≤ rank.looseness
    · exact .inl (by rw [if_pos bare, if_pos (Nat.le_trans bare le)])
    · by_cases later : (c.rank p).looseness ≤ looser.looseness
      · exact .inr (by rw [if_neg bare, if_pos later])
      · exact .inl (by rw [if_neg bare, if_neg later])
  | _ => exact .inl rfl

theorem printed_balanced (p : Precedence) (rank : Rank) (e : Filter) :
    (e.printed p rank).count .opening = (e.printed p rank).count .closing := by
  induction e generalizing rank with
  | join c left right ihl ihr =>
    have hl := ihl (c.rank p)
    have hr := ihr (c.rightRank p)
    simp only [printed]
    split <;> simp <;> omega
  | _ => simp [printed]

theorem printed_lexable {e : Filter} (wf : e.WellFormed) (p : Precedence) (rank : Rank) :
    ∀ t ∈ e.printed p rank, t.Lexable := by
  induction e generalizing rank with
  | present path =>
    have identifier : IsIdentifier path := wf
    simpa [printed, Token.Lexable] using identifier
  | compare path op value => simpa [printed, Token.Lexable] using ⟨wf.1, wf.2.2⟩
  | join c left right ihl ihr =>
    have inner : ∀ t ∈ left.printed p (c.rank p) ++
        .connective c :: right.printed p (c.rightRank p), t.Lexable :=
      List.forall_mem_append.mpr
        ⟨ihl wf.1 (c.rank p), List.forall_mem_cons.mpr ⟨trivial, ihr wf.2 (c.rightRank p)⟩⟩
    simp only [printed]
    split
    · exact inner
    · have closed : ∀ t ∈ [Token.closing], t.Lexable := by simp [Token.Lexable]
      exact List.forall_mem_cons.mpr ⟨trivial, List.forall_mem_append.mpr ⟨inner, closed⟩⟩

theorem derives_printed {e : Filter} (wf : e.WellFormed) (p : Precedence) {rank : Rank}
    (offered : rank.Offered p) : Derives p rank (e.printed p rank) e := by
  induction e generalizing rank with
  | present path => exact (Derives.present path).loosen (Nat.zero_le _) offered
  | compare path op value =>
    exact (Derives.compare path value wf.2.1).loosen (Nat.zero_le _) offered
  | join c left right ihl ihr =>
    have inner := Derives.join c (ihl wf.1 (c.rank_offered p)) (ihr wf.2 (c.rightRank_offered p))
    simp only [printed]
    split
    · rename_i bare
      exact inner.loosen bare offered
    · have whole := inner.loosen (c.rank p).looseness_le (.inr nofun)
      exact (Derives.group whole).loosen (Nat.zero_le _) offered

end Filter

/-! ## What is derived -/

namespace Derives

variable {p : Precedence} {rank : Rank} {ts : List Token} {e : Filter}

theorem balanced (h : Derives p rank ts e) : ts.count .opening = ts.count .closing := by
  induction h using levels with
  | present path => rfl
  | compare path op value valued => rfl
  | group ts e h ih =>
    simp
    omega
  | loosen rank looser ts e h le offered ih => exact ih
  | join c ts us e f hl hr ihl ihr =>
    simp
    omega

theorem connectiveCount_eq (h : Derives p rank ts e) : connectiveCount ts = e.joins := by
  induction h using levels with
  | present path => rfl
  | compare path op value valued => rfl
  | group ts e h ih => simpa [connectiveCount] using ih
  | loosen rank looser ts e h le offered ih => exact ih
  | join c ts us e f hl hr ihl ihr =>
    have one : connectiveCount (.connective c :: us) = 1 + connectiveCount us := by
      cases c <;> simp [connectiveCount] <;> omega
    rw [connectiveCount_append, one, ihl, ihr, Filter.joins, Nat.add_assoc]

theorem wellFormed (h : Derives p rank ts e) (lexable : ∀ t ∈ ts, t.Lexable) : e.WellFormed := by
  induction h using levels with
  | present path => exact lexable _ (List.mem_cons_self ..)
  | compare path op value valued =>
    exact ⟨lexable (.identifier path) (by simp), valued, lexable (.literal value) (by simp)⟩
  | group ts e h ih => exact ih fun t ht => lexable t (by simp [ht])
  | loosen rank looser ts e h le offered ih => exact ih lexable
  | join c ts us e f hl hr ihl ihr =>
    exact ⟨ihl fun t ht => lexable t (by simp [ht]), ihr fun t ht => lexable t (by simp [ht])⟩

/-- Printing a filter nests no deeper than any tokens that derive it. -/
theorem printed_nests {limit depth : Nat} (h : Derives p rank ts e)
    (nests : NestsBelow limit depth ts) : NestsBelow limit depth (e.printed p rank) := by
  induction h using levels generalizing depth with
  | present path => exact nests
  | compare path op value valued => exact nests
  | group ts e h ih =>
    obtain ⟨room, inner⟩ := nestsBelow_group.mp nests
    rcases e.printed_loosen p (Rank.looseness_le .term) with same | grouped
    · rw [same]
      exact (ih inner).mono (Nat.le_succ depth)
    · rw [grouped]
      exact nestsBelow_group.mpr ⟨room, ih inner⟩
  | loosen rank looser ts e h le offered ih =>
    rcases e.printed_loosen p le with same | grouped
    · exact same ▸ ih nests
    · have inner := ih nests
      rw [grouped, nestsBelow_group] at inner
      exact inner.2.mono (Nat.le_succ depth)
  | join c ts us e f hl hr ihl ihr =>
    have apart (vs : List Token) : NestsBelow limit depth (.connective c :: vs) ↔
        NestsBelow limit depth vs := by simp [nestsBelow_cons]
    rw [nestsBelow_append hl.balanced, apart] at nests
    rw [Filter.printed_join, nestsBelow_append (e.printed_balanced p _), apart]
    exact ⟨ihl nests.1, ihr nests.2⟩

/-- Printing a filter takes the fewest parentheses that derive it. -/
theorem printed_fewest (h : Derives p rank ts e) :
    (e.printed p rank).count .opening ≤ ts.count .opening := by
  induction h using levels with
  | present path => exact Nat.le_refl _
  | compare path op value valued => exact Nat.le_refl _
  | group ts e h ih =>
    rcases e.printed_loosen p (Rank.looseness_le .term) with same | grouped
    · rw [same]
      simp
      omega
    · rw [grouped]
      simp
      omega
  | loosen rank looser ts e h le offered ih =>
    rcases e.printed_loosen p le with same | grouped
    · exact same ▸ ih
    · rw [grouped] at ih
      simp at ih
      omega
  | join c ts us e f hl hr ihl ihr =>
    rw [Filter.printed_join]
    simp
    omega

end Derives

/-! ## Reading what was printed -/

namespace Filter

theorem reads_printed {p : Precedence} {e : Filter} (wf : e.WellFormed)
    (count : e.joins ≤ maxConnectives) (nests : NestsBelow maxDepth 0 (e.printed p .expression))
    {placed : List (Placed Token)} (written : placed.map Placed.value = e.printed p .expression) :
    Filter.ofTokens p placed = .ok e := by
  have derived : Derives p .expression (e.printed p .expression) e :=
    derives_printed wf p (.inr nofun)
  rw [ofTokens_ok_iff, written]
  exact ⟨derived, nests, derived.connectiveCount_eq ▸ count⟩

theorem ofText_printed {p : Precedence} {e : Filter} (wf : e.WellFormed)
    (count : e.joins ≤ maxConnectives) (nests : NestsBelow maxDepth 0 (e.printed p .expression)) :
    Filter.ofText p (spelled (e.printed p .expression)) = .ok e := by
  obtain ⟨lexed, clean⟩ := Tokens.ofText_spelled (printed_lexable wf p .expression)
  exact ofText_ok_iff.mpr ⟨clean, ofTokens_ok_iff.mp (reads_printed wf count nests lexed)⟩

theorem wellFormed_of_ofText {p : Precedence} {s : String} {e : Filter}
    (read : Filter.ofText p s = .ok e) :
    e.WellFormed ∧ e.joins ≤ maxConnectives ∧ NestsBelow maxDepth 0 (e.printed p .expression) := by
  obtain ⟨-, derived, nests, count⟩ := ofText_ok_iff.mp read
  have lexable : ∀ t ∈ (Tokens.ofText s).tokens.map Placed.value, t.Lexable := by
    intro t ht
    obtain ⟨placed, found, rfl⟩ := List.mem_map.mp ht
    exact Tokens.lexable found
  exact ⟨derived.wellFormed lexable, derived.connectiveCount_eq ▸ count,
    derived.printed_nests nests⟩

/-- A filter is read from some text exactly when it is well-formed, has at most 256 connectives, and
is printed with at most 64 groups in one another. Reading its printing gives it back, as tokens at
any places and as text, and no tokens that derive it have fewer parentheses. -/
theorem readable_iff_wellFormed (p : Precedence) (e : Filter) :
    ((∃ s, Filter.ofText p s = .ok e) ↔
      e.WellFormed ∧ e.joins ≤ 256 ∧ NestsBelow 64 0 (e.printed p .expression)) ∧
    (e.WellFormed → e.joins ≤ 256 → NestsBelow 64 0 (e.printed p .expression) →
      Filter.ofText p (spelled (e.printed p .expression)) = .ok e ∧
      ∀ placed : List (Placed Token), placed.map Placed.value = e.printed p .expression →
        Filter.ofTokens p placed = .ok e) ∧
    ∀ ts, Derives p .expression ts e →
      (e.printed p .expression).count .opening ≤ ts.count .opening := by
  refine ⟨⟨?_, ?_⟩, ?_, fun ts derived => derived.printed_fewest⟩
  · rintro ⟨s, read⟩
    exact wellFormed_of_ofText read
  · rintro ⟨wf, count, nests⟩
    exact ⟨_, ofText_printed wf count nests⟩
  · intro wf count nests
    exact ⟨ofText_printed wf count nests, fun placed => reads_printed wf count nests⟩

theorem readable_iff_wellFormed_mixed :
    let e : Filter := .join .and
      (.join .or (.present "a")
        (.compare "b" .greater (.timestamp "2011-05-13T04:42:34Z" ⟨⟨2011, 5, 13⟩, 282, 34, 0⟩)))
      (.join .and (.compare "C" .equal (.number (.decimal (.infinity true))))
        (.compare "d.or" .contains (.text "say \"or\"")))
    let ts := e.printed .andBindsTighter .expression
    e.WellFormed ∧ e.joins ≤ 256 ∧ NestsBelow 64 0 ts ∧
      spelled ts = "( a pr or b gt \"2011-05-13T04:42:34Z\" ) and " ++
        "( C eq -1e400 and d.or co \"say \\\"or\\\"\" )" ∧
      Filter.ofText .andBindsTighter (spelled ts) = .ok e := by
  intro e ts
  have wf : e.WellFormed := by decide +kernel
  have count : e.joins ≤ 256 := by decide
  have nests : NestsBelow 64 0 ts := by decide +kernel
  have read := (readable_iff_wellFormed .andBindsTighter e).2.1 wf count nests
  exact ⟨wf, count, nests, by decide +kernel, read.1⟩

end Filter

end FilterSql
