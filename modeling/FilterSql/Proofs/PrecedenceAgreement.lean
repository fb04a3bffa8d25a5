import FilterSql.Proofs.FilterTokens

/-!
Where the precedences agree. They group a text alike exactly when no `and` stands behind an `or` of the
same group.
-/

namespace FilterSql

/-! ## Groups among the tokens -/

/-- Every parenthesis in the tokens has its partner there. -/
def Balanced (ts : List Token) : Prop :=
  ts.count .opening = ts.count .closing ∧
    ∀ front rest, ts = front ++ rest → front.count .closing ≤ front.count .opening

/-- An `and` stands behind an `or` of the same group: what stands between them closes all that it opens,
and nothing that was open before. -/
def AndBehindOr (ts : List Token) : Prop :=
  ∃ before between after,
    ts = before ++ .connective .or :: (between ++ .connective .and :: after) ∧ Balanced between

/-- An `or` stands in the group that is open where the tokens end. -/
def OrOpen (ts : List Token) : Prop :=
  ∃ before between, ts = before ++ .connective .or :: between ∧ Balanced between

theorem balanced_append {ts us : List Token} (ht : Balanced ts) (hu : Balanced us) :
    Balanced (ts ++ us) := by
  refine ⟨by rw [List.count_append, List.count_append, ht.1, hu.1], ?_⟩
  intro front rest whole
  rcases List.append_eq_append_iff.mp whole with ⟨more, rfl, inside⟩ | ⟨more, inside, rfl⟩
  · have opened := hu.2 more rest inside
    have even := ht.1
    rw [List.count_append, List.count_append]
    omega
  · exact ht.2 front more inside

theorem balanced_of_neutral {ts : List Token} (neutral : ∀ t ∈ ts, t ≠ .opening ∧ t ≠ .closing) :
    Balanced ts := by
  have none {us : List Token} (inside : us ⊆ ts) : us.count .opening = 0 ∧ us.count .closing = 0 := by
    constructor
    · apply List.count_eq_zero.mpr
      intro member
      exact (neutral _ (inside member)).1 rfl
    · apply List.count_eq_zero.mpr
      intro member
      exact (neutral _ (inside member)).2 rfl
  obtain ⟨opened, closed⟩ := none (List.Subset.refl ts)
  refine ⟨opened.trans closed.symm, ?_⟩
  intro front rest whole
  have inside : front ⊆ ts := whole ▸ List.subset_append_left front rest
  rw [(none inside).2]
  exact Nat.zero_le _

theorem balanced_connective (c : Connective) {ts : List Token} (h : Balanced ts) :
    Balanced (.connective c :: ts) := by
  have single : Balanced [.connective c] := balanced_of_neutral (by simp)
  exact balanced_append single h

theorem balanced_group {ts : List Token} (h : Balanced ts) :
    Balanced (.opening :: (ts ++ [.closing])) := by
  have even := h.1
  refine ⟨by simp; omega, ?_⟩
  intro front rest whole
  cases front with
  | nil => exact Nat.le_refl _
  | cons t front =>
    obtain ⟨rfl, inside⟩ := List.cons.inj whole
    rcases List.append_eq_append_iff.mp inside with ⟨more, rfl, last⟩ | ⟨more, part, -⟩
    · have one : more.count .closing ≤ [Token.closing].count .closing := by
        rw [last, List.count_append]
        exact Nat.le_add_right _ _
      simp at one ⊢
      omega
    · have inner := h.2 front more part
      simp
      omega

/-- What stands before a balanced rest is balanced itself. -/
theorem balanced_of_append {ts us : List Token} (h : Balanced (ts ++ us)) (hu : Balanced us) :
    Balanced ts := by
  have total := h.1
  have even := hu.1
  rw [List.count_append, List.count_append] at total
  refine ⟨by omega, ?_⟩
  intro front rest whole
  exact h.2 front (rest ++ us) (by rw [whole, List.append_assoc])

/-- Where a token stands in two lists joined by another one: before it, in its place, or behind it. -/
theorem split_cases {α : Type} {before after left right : List α} {a b : α}
    (h : before ++ a :: after = left ++ b :: right) :
    (∃ more, left = before ++ a :: more ∧ after = more ++ b :: right) ∨
      (before = left ∧ a = b ∧ after = right) ∨
      ∃ more, before = left ++ b :: more ∧ right = more ++ a :: after := by
  rcases List.append_eq_append_iff.mp h with ⟨more, rfl, rest⟩ | ⟨more, rfl, rest⟩
  · cases more with
    | nil => exact .inr (.inl ⟨(List.append_nil _).symm, List.cons.inj rest⟩)
    | cons c more =>
      obtain ⟨rfl, tail⟩ := List.cons.inj rest
      exact .inl ⟨more, rfl, tail⟩
  · cases more with
    | nil =>
      obtain ⟨same, tail⟩ := List.cons.inj rest
      exact .inr (.inl ⟨List.append_nil _, same.symm, tail.symm⟩)
    | cons c more =>
      obtain ⟨rfl, tail⟩ := List.cons.inj rest
      exact .inr (.inr ⟨more, rfl, tail⟩)

/-- A connective before the last parenthesis leaves the parenthesis for the end. -/
theorem connective_before_closing {ts before after : List Token} {c : Connective}
    (h : ts ++ [.closing] = before ++ .connective c :: after) :
    ∃ rest, ts = before ++ .connective c :: rest ∧ after = rest ++ [.closing] := by
  rcases split_cases h.symm with found | ⟨-, same, -⟩ | ⟨more, -, none⟩
  · exact found
  · cases same
  · simp at none

theorem AndBehindOr.within {ts : List Token} (h : AndBehindOr ts) (us vs : List Token) :
    AndBehindOr (us ++ (ts ++ vs)) := by
  obtain ⟨before, between, after, rfl, balanced⟩ := h
  exact ⟨us ++ before, between, after ++ vs, by simp, balanced⟩

theorem andBehindOr_group_iff {ts : List Token} :
    AndBehindOr (.opening :: (ts ++ [.closing])) ↔ AndBehindOr ts := by
  constructor
  · rintro ⟨before, between, after, whole, balanced⟩
    cases before with
    | nil => cases whole
    | cons t before =>
      have inside : ts ++ [.closing] =
          (before ++ .connective .or :: between) ++ .connective .and :: after := by
        simpa using (List.cons.inj whole).2
      obtain ⟨rest, found, -⟩ := connective_before_closing inside
      refine ⟨before, between, rest, ?_, balanced⟩
      rw [found, List.append_assoc, List.cons_append]
  · intro h
    exact h.within [.opening] [.closing]

namespace Phrase

/-! ## Groups of a phrase -/

/-- Whether the outermost chain of the phrase has an `or`. -/
def hasOr : Phrase → Bool
  | chain before c _ => c == .or || before.hasOr
  | _ => false

/-- In every chain of the phrase, each `and` stands before the first `or`. -/
def AndsFirst : Phrase → Prop
  | group inner => inner.AndsFirst
  | chain before c last =>
    before.AndsFirst ∧ last.AndsFirst ∧ (c = .and → before.hasOr = false)
  | _ => True

theorem before_alternatives (phrase : Phrase) :
    phrase.alternatives.before = none ↔ phrase.hasOr = false := by
  induction phrase with
  | chain before c last ihb _ =>
    cases c with
    | and => exact ihb
    | or => simp [alternatives, hasOr]
  | _ => simp [alternatives, hasOr]

/-- The two groupings of a phrase are the same filter exactly when its `and`s come first. -/
theorem groupings_eq_iff (phrase : Phrase) :
    phrase.groupLeftToRight = phrase.alternatives.filter ↔ phrase.AndsFirst := by
  induction phrase with
  | present path | compare path op value =>
    simp [groupLeftToRight, alternatives, Alternatives.filter, AndsFirst]
  | group inner ih => exact ih
  | chain before c last ihb ihl =>
    cases c with
    | or =>
      rw [groupLeftToRight, alternatives, Alternatives.filter, Filter.join.injEq, ihb, ihl, AndsFirst]
      simp
    | and =>
      -- Behind an `or`, an `and` is the outermost connective from left to right, and below the `or` else.
      rw [AndsFirst, ← before_alternatives, ← ihb, ← ihl]
      cases first : before.alternatives.before with
      | none => simp [groupLeftToRight, alternatives, Alternatives.filter, first]
      | some alternative => simp [groupLeftToRight, alternatives, Alternatives.filter, first]

/-! ## Phrases and their tokens -/

theorem tokens_balanced (phrase : Phrase) : Balanced phrase.tokens := by
  induction phrase with
  | present path => exact balanced_of_neutral (by simp [tokens])
  | compare path op value => exact balanced_of_neutral (by simp [tokens])
  | group inner ih => exact balanced_group ih
  | chain before c last ihb ihl => exact balanced_append ihb (balanced_connective c ihl)

/-- A connective of a term stands within parentheses of the term. -/
theorem opened_before_connective {term : Phrase} (isTerm : term.isTerm = true) {c : Connective}
    {before after : List Token} (split : term.tokens = before ++ .connective c :: after) :
    before.count .closing < before.count .opening := by
  cases term with
  | present path | compare path op value =>
    have member : Token.connective c ∈ before ++ .connective c :: after := by simp
    rw [← split] at member
    simp [tokens] at member
  | chain first d last => cases isTerm
  | group inner =>
    cases before with
    | nil => cases split
    | cons t before =>
      obtain ⟨rfl, inside⟩ := List.cons.inj split
      obtain ⟨rest, part, -⟩ := connective_before_closing inside
      have inner := inner.tokens_balanced.2 before _ part
      simp
      omega

theorem not_orOpen_term {term : Phrase} (isTerm : term.isTerm = true) : ¬ OrOpen term.tokens := by
  rintro ⟨before, between, whole, balanced⟩
  have opened := opened_before_connective isTerm whole
  have total := term.tokens_balanced.1
  have even := balanced.1
  simp [whole] at total
  omega

/-- The chain of a phrase has an `or` exactly when one is found among its tokens outside all groups. -/
theorem orOpen_tokens_iff {phrase : Phrase} (proper : phrase.Proper) :
    OrOpen phrase.tokens ↔ phrase.hasOr = true := by
  induction phrase with
  | present path | compare path op value | group inner =>
    exact iff_of_false (not_orOpen_term rfl) (by simp [hasOr])
  | chain first c last ihb _ =>
    obtain ⟨properFirst, -, isTerm⟩ := proper
    rw [hasOr, Bool.or_eq_true, beq_iff_eq, ← ihb properFirst]
    constructor
    · rintro ⟨before, between, whole, balanced⟩
      rcases split_cases whole.symm with ⟨more, found, rfl⟩ | ⟨-, same, -⟩ | ⟨more, -, found⟩
      · have rest := balanced_connective c last.tokens_balanced
        exact .inr ⟨before, more, found, balanced_of_append balanced rest⟩
      · exact .inl (Token.connective.inj same).symm
      · exact absurd ⟨more, between, found, balanced⟩ (not_orOpen_term isTerm)
    · rintro (rfl | ⟨before, between, found, balanced⟩)
      · exact ⟨first.tokens, last.tokens, rfl, last.tokens_balanced⟩
      · refine ⟨before, between ++ .connective c :: last.tokens, ?_, ?_⟩
        · rw [tokens, found, List.append_assoc, List.cons_append]
        · exact balanced_append balanced (balanced_connective c last.tokens_balanced)

theorem andBehindOr_chain_iff {first last : Phrase} (c : Connective)
    (isTerm : last.isTerm = true) :
    AndBehindOr (first.tokens ++ .connective c :: last.tokens) ↔
      AndBehindOr first.tokens ∨ AndBehindOr last.tokens ∨ c = .and ∧ OrOpen first.tokens := by
  constructor
  · rintro ⟨before, between, after, whole, balanced⟩
    rw [← List.cons_append, ← List.append_assoc] at whole
    rcases split_cases whole.symm with ⟨more, found, -⟩ | ⟨found, same, -⟩ | ⟨more, found, inLast⟩
    · refine .inl ⟨before, between, more, ?_, balanced⟩
      rw [found, List.append_assoc, List.cons_append]
    · exact .inr (.inr ⟨(Token.connective.inj same).symm, before, between, found.symm, balanced⟩)
    · -- The `and` stands within parentheses of the last term, and so does its `or`.
      have opened := opened_before_connective isTerm inLast
      have even := balanced.1
      rcases split_cases found with ⟨rest, -, rfl⟩ | ⟨-, -, rfl⟩ | ⟨rest, -, rfl⟩
      · have closed := balanced.2 rest _ rfl
        simp at even
        omega
      · omega
      · refine .inr (.inl ⟨rest, between, after, ?_, balanced⟩)
        rw [inLast, List.append_assoc, List.cons_append]
  · rintro (inFirst | inLast | ⟨rfl, before, between, found, balanced⟩)
    · exact inFirst.within [] (.connective c :: last.tokens)
    · have within := inLast.within (first.tokens ++ [.connective c]) []
      simpa using within
    · refine ⟨before, between, last.tokens, ?_, balanced⟩
      rw [found, List.append_assoc, List.cons_append]

/-- Some `and` stands behind an `or` of its group exactly when not all of them come first. -/
theorem andBehindOr_tokens_iff {phrase : Phrase} (proper : phrase.Proper) :
    AndBehindOr phrase.tokens ↔ ¬ phrase.AndsFirst := by
  induction phrase with
  | present path | compare path op value =>
    refine iff_of_false ?_ (by simp [AndsFirst])
    rintro ⟨before, between, after, whole, -⟩
    have member : Token.connective .or ∈ before ++ .connective .or :: (between ++
        .connective .and :: after) := by simp
    rw [← whole] at member
    simp [tokens] at member
  | group inner ih => exact andBehindOr_group_iff.trans (ih proper)
  | chain first c last ihb ihl =>
    obtain ⟨properFirst, properLast, isTerm⟩ := proper
    have left := ihb properFirst
    have right := ihl properLast
    rw [tokens, andBehindOr_chain_iff c isTerm, left, right, orOpen_tokens_iff properFirst, AndsFirst]
    simp only [not_and_or, Classical.not_imp, Bool.not_eq_false]

end Phrase

/-- A text that is read is read alike under both precedences exactly when no `and` of it stands behind an
`or` of the same group. -/
theorem precedences_agree_iff (p : Precedence) (s : String) (f : Filter)
    (read : Filter.ofText p s = .ok f) :
    ∃ left tight, Filter.ofText .leftToRight s = .ok left ∧
      Filter.ofText .andBindsTighter s = .ok tight ∧
      (left = tight ↔ ¬ AndBehindOr (tokenValues s)) := by
  obtain ⟨clean, derived, limits⟩ := Filter.ofText_ok_iff.mp read
  obtain ⟨phrase, proper, spelled, -⟩ := derives_iff.mp derived
  have grouped (p : Precedence) : Filter.ofText p s = .ok (phrase.toFilter p) :=
    Filter.ofText_ok_iff.mpr ⟨clean, derives_iff.mpr ⟨phrase, proper, spelled, rfl⟩, limits⟩
  refine ⟨_, _, grouped .leftToRight, grouped .andBindsTighter, ?_⟩
  rw [tokenValues, ← spelled, Phrase.andBehindOr_tokens_iff proper, not_not]
  exact phrase.groupings_eq_iff

theorem precedences_agree_iff_grouped :
    let apart := "(a pr or b pr) and c pr or d pr"
    let together := "a pr and (b pr or c pr and d pr)"
    (∃ f, Filter.ofText .leftToRight apart = .ok f ∧ Filter.ofText .andBindsTighter apart = .ok f ∧
      ¬ AndBehindOr (tokenValues apart)) ∧
    ∃ f g, Filter.ofText .leftToRight together = .ok f ∧
      Filter.ofText .andBindsTighter together = .ok g ∧ f ≠ g ∧ AndBehindOr (tokenValues together) := by
  intro apart together
  let f : Filter := .join .or (.join .and (.join .or (.present "a") (.present "b")) (.present "c"))
    (.present "d")
  have left : Filter.ofText .leftToRight apart = .ok f := by decide +kernel
  have tight : Filter.ofText .andBindsTighter apart = .ok f := by decide +kernel
  let g : Filter := .join .and (.present "a")
    (.join .and (.join .or (.present "b") (.present "c")) (.present "d"))
  let g' : Filter := .join .and (.present "a")
    (.join .or (.present "b") (.join .and (.present "c") (.present "d")))
  have left' : Filter.ofText .leftToRight together = .ok g := by decide +kernel
  have tight' : Filter.ofText .andBindsTighter together = .ok g' := by decide +kernel
  have different : g ≠ g' := by decide
  refine ⟨⟨f, left, tight, ?_⟩, g, g', left', tight', different, ?_⟩
  · obtain ⟨_, _, read, read', agree⟩ := precedences_agree_iff .leftToRight apart f left
    cases left.symm.trans read
    cases tight.symm.trans read'
    exact agree.mp rfl
  · obtain ⟨_, _, read, read', agree⟩ := precedences_agree_iff .leftToRight together g left'
    cases left'.symm.trans read
    cases tight'.symm.trans read'
    exact Classical.not_not.mp fun none => different (agree.mpr none)

end FilterSql
