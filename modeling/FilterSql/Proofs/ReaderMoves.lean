import FilterSql.Proofs.StepReader
import Mathlib.Data.List.Induction

/-!
The reader as a machine: what one token does to it, and where it stands after a list of tokens. The
limits are kept apart, as conditions on the tokens alone.
-/

namespace FilterSql

namespace Progress

/-- One token taken, whatever the limits say. -/
inductive Moves : Progress → Placed Token → Progress → Prop
  | identifier {groups : List OpenGroup} {n position : Nat} {lead : Lead} (path : String) :
      Moves ⟨groups, n, .term lead⟩ ⟨position, .identifier path⟩ ⟨groups, n, .operator lead path⟩
  | opening {groups : List OpenGroup} {n position : Nat} {lead : Lead} :
      Moves ⟨groups, n, .term lead⟩ ⟨position, .opening⟩
        ⟨⟨position, lead⟩ :: groups, n, .term .start⟩
  | present {groups : List OpenGroup} {n position : Nat} {lead : Lead} {path : String} :
      Moves ⟨groups, n, .operator lead path⟩ ⟨position, .operator .present⟩
        ⟨groups, n, .connective (lead.add (.present path))⟩
  | operator {groups : List OpenGroup} {n position : Nat} {lead : Lead} {path : String}
      {op : Operator} (valued : op ≠ .present) :
      Moves ⟨groups, n, .operator lead path⟩ ⟨position, .operator op⟩
        ⟨groups, n, .value lead path op position⟩
  | literal {groups : List OpenGroup} {n position start : Nat} {lead : Lead} {path : String}
      {op : Operator} (value : Literal) :
      Moves ⟨groups, n, .value lead path op start⟩ ⟨position, .literal value⟩
        ⟨groups, n, .connective (lead.add (.compare path op value))⟩
  | connective {groups : List OpenGroup} {n position : Nat} {chain : Phrase} (c : Connective) :
      Moves ⟨groups, n, .connective chain⟩ ⟨position, .connective c⟩
        ⟨groups, n + 1, .term (.after chain c)⟩
  | closing {g : OpenGroup} {groups : List OpenGroup} {n position : Nat} {chain : Phrase} :
      Moves ⟨g :: groups, n, .connective chain⟩ ⟨position, .closing⟩
        ⟨groups, n, .connective (g.lead.add (.group chain))⟩

theorem Moves.deterministic {p q q' : Progress} {t : Placed Token} (h : Moves p t q)
    (h' : Moves p t q') : q = q' := by
  cases h with
  | operator valued =>
    cases h' with
    | present => exact absurd rfl valued
    | operator _ => rfl
  | present =>
    cases h' with
    | present => rfl
    | operator valued => exact absurd rfl valued
  | _ => cases h'; rfl

/-- The limits leave room for the token. -/
def Allows (p : Progress) : Token → Prop
  | .opening => p.groups.length < maxDepth
  | .connective _ => p.connectives < maxConnectives
  | _ => True

theorem step_of_moves {p q : Progress} {t : Placed Token} (h : Moves p t q)
    (allowed : p.Allows t.value) : p.step t = .ok q := by
  cases h with
  | identifier path => rfl
  | opening => exact if_neg (Nat.not_le.mpr allowed)
  | present => rfl
  | @operator groups n position lead path op valued =>
    cases op with
    | present => exact absurd rfl valued
    | _ => rfl
  | literal value => rfl
  | connective c => exact if_neg (Nat.not_le.mpr allowed)
  | closing => rfl

theorem moves_of_step {p q : Progress} {t : Placed Token} (h : p.step t = .ok q) :
    Moves p t q ∧ p.Allows t.value := by
  obtain ⟨groups, n, waiting⟩ := p
  obtain ⟨position, token⟩ := t
  cases waiting with
  | term lead =>
    cases token with
    | identifier path =>
      cases h
      exact ⟨.identifier path, trivial⟩
    | opening =>
      simp only [step, stepTerm] at h
      split at h
      · cases h
      · rename_i room
        cases h
        exact ⟨.opening, Nat.not_le.mp room⟩
    | _ => cases h
  | operator lead path =>
    cases token with
    | operator op =>
      cases op with
      | present =>
        cases h
        exact ⟨.present, trivial⟩
      | _ =>
        cases h
        exact ⟨.operator (by decide), trivial⟩
    | _ => cases h
  | value lead path op start =>
    cases token with
    | literal value =>
      cases h
      exact ⟨.literal value, trivial⟩
    | _ => cases h
  | connective chain =>
    cases token with
    | connective c =>
      simp only [step, stepConnective] at h
      split at h
      · cases h
      · rename_i room
        cases h
        exact ⟨.connective c, Nat.not_le.mp room⟩
    | closing =>
      cases groups with
      | nil => cases h
      | cons g outer =>
        cases h
        exact ⟨.closing, trivial⟩
    | _ => cases groups <;> cases h

theorem step_ok_iff {p q : Progress} {t : Placed Token} :
    p.step t = .ok q ↔ Moves p t q ∧ p.Allows t.value :=
  ⟨moves_of_step, fun h => step_of_moves h.1 h.2⟩

/-- Where the reader stands after the given tokens. -/
inductive Reaches : List (Placed Token) → Progress → Prop
  | start : Reaches [] .start
  | next {ts : List (Placed Token)} {t : Placed Token} {p q : Progress} :
      Reaches ts p → Moves p t q → Reaches (ts ++ [t]) q

theorem reaches_nil_iff {p : Progress} : Reaches [] p ↔ p = .start := by
  constructor
  · intro h
    generalize nil : ([] : List (Placed Token)) = ts at h
    cases h with
    | start => rfl
    | next => simp at nil
  · rintro rfl
    exact .start

theorem reaches_concat_iff {ts : List (Placed Token)} {t : Placed Token} {q : Progress} :
    Reaches (ts ++ [t]) q ↔ ∃ p, Reaches ts p ∧ Moves p t q := by
  constructor
  · intro h
    generalize whole : ts ++ [t] = us at h
    cases h with
    | start => simp at whole
    | next before move =>
      obtain ⟨rfl, last⟩ := List.append_inj' whole rfl
      cases last
      exact ⟨_, before, move⟩
  · rintro ⟨p, before, move⟩
    exact .next before move

theorem Reaches.deterministic {ts : List (Placed Token)} {p q : Progress} (hp : Reaches ts p)
    (hq : Reaches ts q) : p = q := by
  induction hp generalizing q with
  | start => exact (reaches_nil_iff.mp hq).symm
  | next _ move ih =>
    obtain ⟨r, before, move'⟩ := reaches_concat_iff.mp hq
    obtain rfl := ih before
    exact move.deterministic move'

end Progress

/-! ## Limits -/

def connectiveCount (ts : List Token) : Nat :=
  ts.count (.connective .and) + ts.count (.connective .or)

/-- With `depth` groups open before the tokens, none of their groups stands within `limit` others. -/
def NestsBelow (limit depth : Nat) (ts : List Token) : Prop :=
  ∀ before after, ts = before ++ .opening :: after →
    depth + before.count .opening < limit + before.count .closing

theorem nestsBelow_nil (limit depth : Nat) : NestsBelow limit depth [] := by
  intro before after whole
  simp at whole

theorem nestsBelow_concat {limit depth : Nat} {ts : List Token} {t : Token} :
    NestsBelow limit depth (ts ++ [t]) ↔ NestsBelow limit depth ts ∧
      (t = .opening → depth + ts.count .opening < limit + ts.count .closing) := by
  constructor
  · intro h
    refine ⟨?_, ?_⟩
    · intro before after whole
      exact h before (after ++ [t]) (by simp [whole])
    · rintro rfl
      exact h ts [] rfl
  · rintro ⟨inner, last⟩ before after whole
    rcases List.eq_nil_or_concat after with rfl | ⟨front, final, rfl⟩
    · obtain ⟨rfl, same⟩ := List.append_inj' whole rfl
      exact last (List.cons.inj same).1
    · rw [List.concat_eq_append, ← List.cons_append, ← List.append_assoc] at whole
      obtain ⟨rfl, -⟩ := List.append_inj' whole rfl
      exact inner before front rfl

theorem nestsBelow_cons {limit depth : Nat} {t : Token} {ts : List Token} :
    NestsBelow limit depth (t :: ts) ↔ (t = .opening → depth < limit) ∧
      NestsBelow (limit + [t].count .closing) (depth + [t].count .opening) ts := by
  constructor
  · intro h
    refine ⟨?_, ?_⟩
    · rintro rfl
      exact h [] ts rfl
    · intro before after whole
      have room := h (t :: before) after (by rw [whole, List.cons_append])
      rw [List.count_cons, List.count_cons] at room
      simp only [List.count_singleton]
      omega
  · rintro ⟨first, inner⟩ before after whole
    cases before with
    | nil => exact first (List.cons.inj whole).1
    | cons u before =>
      obtain ⟨rfl, rest⟩ := List.cons.inj whole
      have room := inner before after rest
      simp only [List.count_singleton] at room
      rw [List.count_cons, List.count_cons]
      omega

instance decidableNestsBelow :
    (limit depth : Nat) → (ts : List Token) → Decidable (NestsBelow limit depth ts)
  | limit, depth, [] => isTrue (nestsBelow_nil limit depth)
  | limit, depth, t :: ts =>
    haveI := decidableNestsBelow (limit + [t].count .closing) (depth + [t].count .opening) ts
    decidable_of_iff _ nestsBelow_cons.symm

theorem nestsBelow_group {limit depth : Nat} {ts : List Token} :
    NestsBelow limit depth (.opening :: (ts ++ [.closing])) ↔
      depth < limit ∧ NestsBelow limit (depth + 1) ts := by
  rw [nestsBelow_cons, nestsBelow_concat]
  simp

theorem nestsBelow_append {limit depth : Nat} {ts us : List Token}
    (balanced : ts.count .opening = ts.count .closing) :
    NestsBelow limit depth (ts ++ us) ↔ NestsBelow limit depth ts ∧ NestsBelow limit depth us := by
  constructor
  · intro h
    refine ⟨?_, ?_⟩
    · intro before after whole
      exact h before (after ++ us) (by rw [whole, List.append_assoc, List.cons_append])
    · intro before after whole
      have room := h (ts ++ before) after (by rw [whole, List.append_assoc])
      rw [List.count_append, List.count_append] at room
      omega
  · rintro ⟨first, second⟩ before after whole
    rcases List.append_eq_append_iff.mp whole with ⟨more, rfl, rest⟩ | ⟨more, rfl, rest⟩
    · have room := second more after rest
      rw [List.count_append, List.count_append]
      omega
    · cases more with
      | nil =>
        have room := second [] after rest.symm
        rw [List.append_nil] at balanced
        simp only [List.count_nil] at room
        omega
      | cons t more =>
        obtain ⟨rfl, -⟩ := List.cons.inj rest
        exact first before more rfl

theorem NestsBelow.mono {limit depth deeper : Nat} {ts : List Token} (le : depth ≤ deeper)
    (h : NestsBelow limit deeper ts) : NestsBelow limit depth ts := by
  intro before after whole
  have room := h before after whole
  omega

theorem connectiveCount_append (ts us : List Token) :
    connectiveCount (ts ++ us) = connectiveCount ts + connectiveCount us := by
  simp only [connectiveCount, List.count_append]
  omega

namespace Progress

/-- The reader has counted what it has read. -/
theorem Reaches.counts {ts : List (Placed Token)} {p : Progress} (h : Reaches ts p) :
    (ts.map Placed.value).count .opening = p.groups.length + (ts.map Placed.value).count .closing ∧
      p.connectives = connectiveCount (ts.map Placed.value) := by
  induction h with
  | start => exact ⟨rfl, rfl⟩
  | next _ move ih =>
    obtain ⟨groups, connectives⟩ := ih
    simp only [List.map_append, List.map_cons, List.map_nil, List.count_append,
      connectiveCount_append]
    cases move with
    | connective c => cases c <;> simp [connectiveCount] at groups connectives ⊢ <;> omega
    | _ =>
      simp [connectiveCount] at groups connectives ⊢
      omega

theorem Reaches.allows_iff {ts : List (Placed Token)} {p : Progress} (h : Reaches ts p)
    (within : connectiveCount (ts.map Placed.value) ≤ maxConnectives) (t : Token) :
    p.Allows t ↔
      (t = .opening → 0 + (ts.map Placed.value).count .opening <
        maxDepth + (ts.map Placed.value).count .closing) ∧
      connectiveCount (ts.map Placed.value ++ [t]) ≤ maxConnectives := by
  obtain ⟨groups, connectives⟩ := h.counts
  rw [connectiveCount_append, groups]
  rw [← connectives] at within ⊢
  cases t with
  | opening => simp [Allows, connectiveCount, within]
  | connective c =>
    have one : connectiveCount [.connective c] = 1 := by cases c <;> rfl
    rw [one]
    exact ⟨fun room => ⟨nofun, room⟩, fun h => h.2⟩
  | _ => simp [Allows, connectiveCount, within]

theorem run_concat {ts : List (Placed Token)} {t : Placed Token} {q : Progress} :
    (ts ++ [t]).foldlM step start = .ok q ↔
      ∃ p, ts.foldlM step start = .ok p ∧ p.step t = .ok q := by
  simp only [List.foldlM_append, List.foldlM_cons, List.foldlM_nil, bind_pure]
  cases ts.foldlM step start with
  | error e => simp [bind, Except.bind]
  | ok p => simp [bind, Except.bind]

/-- Taking tokens succeeds exactly where the moves lead and the limits allow. -/
theorem run_ok_iff {ts : List (Placed Token)} {q : Progress} :
    ts.foldlM step start = .ok q ↔ Reaches ts q ∧ NestsBelow maxDepth 0 (ts.map Placed.value) ∧
      connectiveCount (ts.map Placed.value) ≤ maxConnectives := by
  induction ts using List.reverseRecOn generalizing q with
  | nil =>
    rw [reaches_nil_iff]
    constructor
    · rintro ⟨⟩
      exact ⟨rfl, nestsBelow_nil _ _, Nat.zero_le _⟩
    · rintro ⟨rfl, -⟩
      rfl
  | append_singleton ts t ih =>
    rw [run_concat, reaches_concat_iff, List.map_append, List.map_singleton, nestsBelow_concat]
    constructor
    · rintro ⟨p, before, last⟩
      obtain ⟨reached, nests, within⟩ := ih.mp before
      obtain ⟨move, allowed⟩ := step_ok_iff.mp last
      obtain ⟨depth, count⟩ := (reached.allows_iff within t.value).mp allowed
      exact ⟨⟨p, reached, move⟩, ⟨nests, depth⟩, count⟩
    · rintro ⟨⟨p, reached, move⟩, ⟨nests, depth⟩, count⟩
      have within : connectiveCount (ts.map Placed.value) ≤ maxConnectives := by
        rw [connectiveCount_append] at count
        omega
      have allowed := (reached.allows_iff within t.value).mpr ⟨depth, count⟩
      exact ⟨p, ih.mpr ⟨reached, nests, within⟩, step_ok_iff.mpr ⟨move, allowed⟩⟩

end Progress

end FilterSql
