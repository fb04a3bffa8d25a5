import FilterSql.Proofs.LexemeParts
import FilterSql.Proofs.PrecedenceAgreement
import FilterSql.Proofs.ReaderStops

/-!
Groups that are open. The parentheses that the reader keeps are those that are open where it stands, and
what it has read since the last of them is balanced. So a parenthesis that it calls unclosed is open
where the reader stops. Whether it stays open is up to the tokens behind, which the reader does not see.
-/

namespace FilterSql

/-! ## Partners -/

/-- A parenthesis with these tokens behind it has its partner among them: between the two, all others
have theirs. -/
def Closed (behind : List Token) : Prop :=
  ∃ inner rest, behind = inner ++ .closing :: rest ∧ Balanced inner

/-- The tokens leave so many parentheses open. -/
inductive StillOpen : Nat → List Token → Prop
  | none {ts : List Token} : Balanced ts → StillOpen 0 ts
  | more {n : Nat} {ts us : List Token} :
      StillOpen n ts → Balanced us → StillOpen (n + 1) (ts ++ .opening :: us)

/-- What stands behind a balanced beginning is balanced itself. -/
theorem balanced_of_append_left {ts us : List Token} (h : Balanced (ts ++ us)) (ht : Balanced ts) :
    Balanced us := by
  have total := h.1
  have even := ht.1
  rw [List.count_append, List.count_append] at total
  refine ⟨by omega, ?_⟩
  intro front rest whole
  have opened := h.2 (ts ++ front) rest (by rw [whole, List.append_assoc])
  rw [List.count_append, List.count_append] at opened
  omega

theorem not_closed_of_balanced {ts : List Token} (h : Balanced ts) : ¬ Closed ts := by
  rintro ⟨inner, rest, rfl, balanced⟩
  have even := balanced.1
  have opened := h.2 (inner ++ [.closing]) rest (by simp)
  simp at opened
  omega

/-- Balanced tokens neither close what was open before them nor keep others from closing it. -/
theorem closed_append_iff {ts us : List Token} (h : Balanced ts) : Closed (ts ++ us) ↔ Closed us := by
  constructor
  · rintro ⟨inner, rest, whole, balanced⟩
    rcases List.append_eq_append_iff.mp whole with ⟨more, rfl, behind⟩ | ⟨more, rfl, behind⟩
    · exact ⟨more, rest, behind, balanced_of_append_left balanced h⟩
    · cases more with
      | nil => exact ⟨[], rest, behind.symm, balanced_of_neutral (by simp)⟩
      | cons t more =>
        obtain ⟨rfl, -⟩ := List.cons.inj behind
        exact absurd ⟨inner, more, rfl, balanced⟩ (not_closed_of_balanced h)
  · rintro ⟨inner, rest, rfl, balanced⟩
    exact ⟨ts ++ inner, rest, (List.append_assoc ..).symm, balanced_append h balanced⟩

namespace StillOpen

variable {n : Nat} {ts : List Token}

theorem count (h : StillOpen n ts) : ts.count .opening = n + ts.count .closing := by
  induction h with
  | none balanced => rw [balanced.1, Nat.zero_add]
  | more _ balanced ih =>
    have even := balanced.1
    simp only [List.count_append, List.count_cons_self, List.count_cons_of_ne, ih, ne_eq,
      reduceCtorEq, not_false_eq_true]
    omega

theorem iff_eq (h : StillOpen n ts) (m : Nat) : StillOpen m ts ↔ m = n := by
  constructor
  · intro h'
    have count := h.count
    rw [h'.count] at count
    omega
  · rintro rfl
    exact h

end StillOpen

/-! ## What the reader has open -/

theorem Lead.tokens_balanced (lead : Lead) : Balanced lead.tokens := by
  cases lead with
  | start => exact balanced_of_neutral (by simp [tokens])
  | after chain c =>
    exact balanced_append chain.tokens_balanced (balanced_of_neutral (by simp))

theorem Waiting.tokens_balanced (waiting : Waiting) : Balanced waiting.tokens := by
  cases waiting with
  | term lead => exact lead.tokens_balanced
  | operator lead path =>
    exact balanced_append lead.tokens_balanced (balanced_of_neutral (by simp))
  | value lead path op start =>
    exact balanced_append lead.tokens_balanced (balanced_of_neutral (by simp))
  | connective chain => exact chain.tokens_balanced

namespace Progress

/-- The tokens read, cut at the open parentheses: before each of them stands what led to its group, and
behind the innermost one what its chain has so far. -/
inductive Layers : List OpenGroup → Waiting → List (Placed Token) → Prop
  | flat {waiting : Waiting} {ts : List (Placed Token)}
      (spelled : ts.map Placed.value = waiting.tokens) : Layers [] waiting ts
  | within {g : OpenGroup} {outer : List OpenGroup} {waiting : Waiting}
      {front inner : List (Placed Token)} (spelled : inner.map Placed.value = waiting.tokens) :
      Layers outer (.term g.lead) front →
      Layers (g :: outer) waiting (front ++ ⟨g.position, .opening⟩ :: inner)

/-- Whatever is added to the innermost chain leaves the layers around it alone. -/
theorem Layers.append {groups : List OpenGroup} {waiting next : Waiting}
    {ts us : List (Placed Token)} (h : Layers groups waiting ts)
    (added : next.tokens = waiting.tokens ++ us.map Placed.value) : Layers groups next (ts ++ us) := by
  cases h with
  | flat spelled =>
    apply Layers.flat
    rw [List.map_append, spelled, added]
  | within spelled outside =>
    rw [List.append_assoc, List.cons_append]
    apply Layers.within _ outside
    rw [List.map_append, spelled, added]

theorem Moves.layers {p q : Progress} {t : Placed Token} (h : Moves p t q)
    {ts : List (Placed Token)} (layers : Layers p.groups p.waiting ts) :
    Layers q.groups q.waiting (ts ++ [t]) := by
  cases h with
  | opening => exact .within rfl layers
  | closing =>
    cases layers with
    | @within g outer _ front inner spelled outside =>
      rw [List.append_assoc]
      apply outside.append
      simp only [Waiting.tokens, Lead.tokens_add, Phrase.tokens, List.map_append, List.cons_append,
        List.map_cons, spelled, List.map_nil]
  | _ =>
    apply layers.append
    simp [Waiting.tokens, Lead.tokens, Lead.tokens_add, Phrase.tokens]

theorem Reaches.layers {ts : List (Placed Token)} {p : Progress} (h : Reaches ts p) :
    Layers p.groups p.waiting ts := by
  induction h with
  | start => exact .flat rfl
  | next _ move ih => exact move.layers ih

theorem Layers.stillOpen {groups : List OpenGroup} {waiting : Waiting} {ts : List (Placed Token)}
    (h : Layers groups waiting ts) : StillOpen groups.length (ts.map Placed.value) := by
  induction h with
  | @flat waiting ts spelled =>
    rw [spelled]
    exact .none waiting.tokens_balanced
  | @within g outer waiting front inner spelled _ ih =>
    rw [List.map_append, List.map_cons, spelled]
    exact .more ih waiting.tokens_balanced

end Progress

/-! ## Positions -/

theorem Tokens.increasing (s : String) :
    ((ofText s).tokens.map Placed.position).Pairwise (· < ·) := by
  obtain ⟨parts, cut⟩ := exists_cut s.toList
  have all := cut.increasing 0
  rw [← lexemes_cut cut] at all
  rw [List.pairwise_map] at all ⊢
  apply all.filterMap
  rintro ⟨first, outcome⟩ ⟨second, outcome'⟩ less t kept t' kept'
  cases outcome <;> cases kept
  cases outcome' <;> cases kept'
  exact less

section Increasing

variable {ts : List (Placed Token)} (increasing : (ts.map Placed.position).Pairwise (· < ·))
include increasing

theorem position_lt {t t' : Placed Token} {before between after : List (Placed Token)}
    (whole : ts = before ++ t :: (between ++ t' :: after)) : t.position < t'.position := by
  rw [whole, List.map_append, List.map_cons] at increasing
  have behind := (List.pairwise_append.mp increasing).2.1
  exact List.rel_of_pairwise_cons behind (by simp)

/-- A position tells where in the tokens its token stands. -/
theorem split_unique {t t' : Placed Token} {before before' after after' : List (Placed Token)}
    (h : ts = before ++ t :: after) (h' : ts = before' ++ t' :: after')
    (same : t.position = t'.position) : before = before' ∧ t = t' ∧ after = after' := by
  rcases split_cases (h.symm.trans h') with ⟨more, -, rest⟩ | found | ⟨more, -, rest⟩
  · rw [rest] at h
    exact absurd same (Nat.ne_of_lt (position_lt increasing h))
  · exact found
  · rw [rest] at h'
    exact absurd same (Nat.ne_of_gt (position_lt increasing h'))

end Increasing

/-! ## Groups called unclosed -/

/-- The token at the position is a parenthesis that is never closed. -/
def Unmatched (ts : List (Placed Token)) (position : Nat) : Prop :=
  ∃ before behind, ts = before ++ ⟨position, .opening⟩ :: behind ∧
    ¬ Closed (behind.map Placed.value)

theorem unmatched_iff {s : String} {position : Nat} {before behind : List (Placed Token)}
    (whole : (Tokens.ofText s).tokens = before ++ ⟨position, .opening⟩ :: behind) :
    Unmatched (Tokens.ofText s).tokens position ↔ ¬ Closed (behind.map Placed.value) := by
  constructor
  · rintro ⟨before', behind', whole', unclosed⟩
    obtain ⟨-, -, rfl⟩ := split_unique (Tokens.increasing s) whole whole' rfl
    exact unclosed
  · intro unclosed
    exact ⟨before, behind, whole, unclosed⟩

/-- Behind a parenthesis that is called unclosed stands a whole expression, and then a token that neither
closes the group nor goes on in it, or none at all. The parenthesis is never closed exactly when the
tokens from there on do not close it. -/
theorem unclosed_group_unmatched_iff (p : Precedence) (s : String) (position : Nat)
    (failed : Filter.ofText p s = .error (.unclosedGroup position)) :
    ∃ before inner rest,
      (Tokens.ofText s).tokens = before ++ ⟨position, .opening⟩ :: (inner ++ rest) ∧
      (∃ f, Derives p .expression (inner.map Placed.value) f) ∧
      (∀ t ∈ rest.head?, t.value ≠ .closing ∧ ∀ c, t.value ≠ .connective c) ∧
      (Unmatched (Tokens.ofText s).tokens position ↔ ¬ Closed (rest.map Placed.value)) ∧
      (rest = [] → Unmatched (Tokens.ofText s).tokens position) := by
  obtain empty | lexical | unread := ofText_error failed
  · cases empty
  · cases lexical
  obtain ⟨taken, rest, reached, whole, reaches, -, -, refused⟩ := exists_stop unread
  generalize next : rest.head? = head at refused
  cases refused with
  | @unclosedGroup g outer n chain _ stuck =>
    subst next
    have proper : chain.Proper := reaches.proper.2
    cases reaches.layers with
    | @within _ _ _ before inner spelled _ =>
      rw [List.append_assoc, List.cons_append] at whole
      have balanced : Balanced (inner.map Placed.value) := spelled ▸ chain.tokens_balanced
      have exactly : Unmatched (Tokens.ofText s).tokens g.position ↔
          ¬ Closed (rest.map Placed.value) := by
        rw [unmatched_iff whole, List.map_append, closed_append_iff balanced]
      refine ⟨before, inner, rest, whole, ⟨chain.toFilter p, ?_⟩, stuck, exactly, ?_⟩
      · rw [spelled]
        exact Phrase.derives_toFilter proper p
      · rintro rfl
        exact exactly.mpr (not_closed_of_balanced (balanced_of_neutral (by simp)))

/-- The group goes on with another one where a connective is missing, and only that one is closed. -/
theorem unclosed_group_unmatched_iff_nested :
    let s := "a pr or (b eq 1 (c pr)"
    let ts := (Tokens.ofText s).tokens
    Filter.ofText .andBindsTighter s = .error (.unclosedGroup 8) ∧
      ∃ before inner rest, ts = before ++ ⟨8, .opening⟩ :: (inner ++ rest) ∧
        (∃ f, Derives .andBindsTighter .expression (inner.map Placed.value) f) ∧
        (∀ t ∈ rest.head?, t.value ≠ .closing ∧ ∀ c, t.value ≠ .connective c) ∧
        (Unmatched ts 8 ↔ ¬ Closed (rest.map Placed.value)) ∧ (rest = [] → Unmatched ts 8) := by
  intro s ts
  have failed : Filter.ofText .andBindsTighter s = .error (.unclosedGroup 8) := by decide +kernel
  exact ⟨failed, unclosed_group_unmatched_iff .andBindsTighter s 8 failed⟩

/-- A group that is closed is called unclosed, because a token stands in it that cannot follow. -/
theorem closed_group_called_unclosed :
    Filter.ofText .leftToRight "(a pr b)" = .error (.unclosedGroup 0) ∧
      ⟨0, .opening⟩ ∈ (Tokens.ofText "(a pr b)").tokens ∧
      ¬ Unmatched (Tokens.ofText "(a pr b)").tokens 0 := by
  let inner : List (Placed Token) :=
    [⟨1, .identifier "a"⟩, ⟨3, .operator .present⟩, ⟨6, .identifier "b"⟩]
  let last : Placed Token := ⟨7, .closing⟩
  have lexed : (Tokens.ofText "(a pr b)").tokens = [] ++ ⟨0, .opening⟩ :: (inner ++ [last]) := by
    decide +kernel
  have closed : Closed ((inner ++ [last]).map Placed.value) :=
    ⟨inner.map Placed.value, [], rfl, balanced_of_neutral (by simp [inner])⟩
  refine ⟨by decide +kernel, by simp [lexed], ?_⟩
  rw [unmatched_iff lexed]
  exact not_not_intro closed

end FilterSql
