import FilterSql.Proofs.ReaderMoves

/-!
Phrases and the tokens that spell them. The reader accepts exactly the spellings of proper phrases that
stay within the limits, and gives back the phrase that was spelled.
-/

namespace FilterSql

namespace Phrase

def tokens : Phrase → List Token
  | present path => [.identifier path, .operator .present]
  | compare path op value => [.identifier path, .operator op, .literal value]
  | group inner => .opening :: (inner.tokens ++ [.closing])
  | chain before c last => before.tokens ++ .connective c :: last.tokens

/-- Chains grow by tests and groups only, and a comparison has an operator that takes a value. -/
def Proper : Phrase → Prop
  | present _ => True
  | compare _ op _ => op ≠ .present
  | group inner => inner.Proper
  | chain before _ last => before.Proper ∧ last.Proper ∧ last.isTerm = true

end Phrase

/-! ## What has been read -/

namespace Lead

def tokens : Lead → List Token
  | start => []
  | after chain c => chain.tokens ++ [.connective c]

def Proper : Lead → Prop
  | start => True
  | after chain _ => chain.Proper

theorem tokens_add (lead : Lead) (term : Phrase) :
    (lead.add term).tokens = lead.tokens ++ term.tokens := by
  cases lead with
  | start => rfl
  | after chain c => simp [add, tokens, Phrase.tokens]

theorem proper_add {lead : Lead} {term : Phrase} (hl : lead.Proper) (ht : term.Proper)
    (isTerm : term.isTerm = true) : (lead.add term).Proper := by
  cases lead with
  | start => exact ht
  | after chain c => exact ⟨hl, ht, isTerm⟩

end Lead

namespace Waiting

def tokens : Waiting → List Token
  | term lead => lead.tokens
  | operator lead path => lead.tokens ++ [.identifier path]
  | value lead path op _ => lead.tokens ++ [.identifier path, .operator op]
  | connective chain => chain.tokens

def Proper : Waiting → Prop
  | term lead => lead.Proper
  | operator lead _ => lead.Proper
  | value lead _ op _ => lead.Proper ∧ op ≠ .present
  | connective chain => chain.Proper

end Waiting

namespace Progress

/-- The tokens of the open groups, outermost first, then those of the innermost chain. -/
def tokens (p : Progress) : List Token :=
  p.groups.reverse.flatMap (fun g => g.lead.tokens ++ [.opening]) ++ p.waiting.tokens

def Proper (p : Progress) : Prop :=
  (∀ g ∈ p.groups, g.lead.Proper) ∧ p.waiting.Proper

theorem Moves.tokens {p q : Progress} {t : Placed Token} (h : Moves p t q) :
    q.tokens = p.tokens ++ [t.value] := by
  cases h <;> simp [Progress.tokens, Waiting.tokens, Lead.tokens, Lead.tokens_add, Phrase.tokens]

theorem Moves.proper {p q : Progress} {t : Placed Token} (h : Moves p t q) (proper : p.Proper) :
    q.Proper := by
  obtain ⟨groups, waiting⟩ := proper
  cases h with
  | identifier path => exact ⟨groups, waiting⟩
  | opening => exact ⟨List.forall_mem_cons.mpr ⟨waiting, groups⟩, trivial⟩
  | present => exact ⟨groups, Lead.proper_add waiting trivial rfl⟩
  | operator valued => exact ⟨groups, waiting, valued⟩
  | literal value => exact ⟨groups, Lead.proper_add waiting.1 waiting.2 rfl⟩
  | connective c => exact ⟨groups, waiting⟩
  | closing =>
    obtain ⟨innermost, outer⟩ := List.forall_mem_cons.mp groups
    exact ⟨outer, Lead.proper_add innermost waiting rfl⟩

theorem Reaches.proper {ts : List (Placed Token)} {p : Progress} (h : Reaches ts p) :
    p.Proper := by
  induction h with
  | start => exact ⟨by simp [Progress.start], trivial⟩
  | next _ move ih => exact move.proper ih

theorem Reaches.tokens {ts : List (Placed Token)} {p : Progress} (h : Reaches ts p) :
    p.tokens = ts.map Placed.value := by
  induction h with
  | start => rfl
  | next _ move ih => rw [move.tokens, ih, List.map_append, List.map_singleton]

/-! ## Reading a spelling -/

/-- The tokens of a phrase lead from where a term is due to where the phrase has been added. A chain
fits only where a chain starts. -/
theorem reaches_phrase {phrase : Phrase} (proper : phrase.Proper) {ts us : List (Placed Token)}
    {groups : List OpenGroup} {n : Nat} {lead : Lead} (h : Reaches ts ⟨groups, n, .term lead⟩)
    (spelled : us.map Placed.value = phrase.tokens)
    (fits : phrase.isTerm = true ∨ lead = .start) :
    ∃ m, Reaches (ts ++ us) ⟨groups, m, .connective (lead.add phrase)⟩ := by
  induction phrase generalizing ts us groups n lead with
  | present path =>
    simp only [Phrase.tokens, List.map_eq_cons_iff, List.map_eq_nil_iff] at spelled
    obtain ⟨⟨i, _⟩, _, rfl, rfl, ⟨j, _⟩, _, rfl, rfl, rfl⟩ := spelled
    rw [List.append_cons]
    exact ⟨n, (h.next (.identifier path)).next .present⟩
  | compare path op value =>
    simp only [Phrase.tokens, List.map_eq_cons_iff, List.map_eq_nil_iff] at spelled
    obtain ⟨⟨i, _⟩, _, rfl, rfl, ⟨j, _⟩, _, rfl, rfl, ⟨k, _⟩, _, rfl, rfl, rfl⟩ := spelled
    rw [List.append_cons, List.append_cons]
    exact ⟨n, ((h.next (.identifier path)).next (.operator proper)).next (.literal value)⟩
  | group inner ih =>
    simp only [Phrase.tokens, List.map_eq_cons_iff, List.map_eq_append_iff, List.map_eq_nil_iff]
      at spelled
    obtain ⟨⟨i, _⟩, _, rfl, rfl, vs, _, rfl, inside, ⟨j, _⟩, _, rfl, rfl, rfl⟩ := spelled
    obtain ⟨m, reached⟩ := ih proper (h.next .opening) inside (.inr rfl)
    rw [List.append_cons, ← List.append_assoc]
    exact ⟨m, reached.next .closing⟩
  | chain before c last ihb ihl =>
    obtain ⟨properBefore, properLast, term⟩ := proper
    rcases fits with impossible | rfl
    · cases impossible
    · simp only [Phrase.tokens, List.map_eq_cons_iff, List.map_eq_append_iff] at spelled
      obtain ⟨vs, _, rfl, first, ⟨i, _⟩, ws, rfl, rfl, second⟩ := spelled
      obtain ⟨m, reached⟩ := ihb properBefore h first (.inr rfl)
      obtain ⟨k, ended⟩ := ihl properLast (reached.next (.connective c)) second (.inl term)
      rw [← List.append_assoc, List.append_cons]
      exact ⟨k, ended⟩

theorem finish_ok_iff {p : Progress} {phrase : Phrase} :
    p.finish = .ok phrase ↔ p.groups = [] ∧ p.waiting = .connective phrase := by
  obtain ⟨groups, n, waiting⟩ := p
  cases waiting <;> cases groups <;> simp [finish]

end Progress

namespace Phrase

/-- The reader's answer, said without the reader. -/
theorem ofTokens_ok_iff {ts : List (Placed Token)} {phrase : Phrase} :
    ofTokens ts = .ok phrase ↔ phrase.Proper ∧ phrase.tokens = ts.map Placed.value ∧
      NestsBelow maxDepth 0 (ts.map Placed.value) ∧
      connectiveCount (ts.map Placed.value) ≤ maxConnectives := by
  have run : ofTokens ts = .ok phrase ↔
      ∃ p, ts.foldlM Progress.step .start = .ok p ∧ p.finish = .ok phrase := by
    unfold ofTokens
    cases ts.foldlM Progress.step .start <;> simp [bind, Except.bind]
  rw [run]
  constructor
  · rintro ⟨⟨groups, n, waiting⟩, taken, finished⟩
    obtain ⟨reached, limits⟩ := Progress.run_ok_iff.mp taken
    obtain ⟨rfl, rfl⟩ := Progress.finish_ok_iff.mp finished
    exact ⟨reached.proper.2, reached.tokens, limits⟩
  · rintro ⟨proper, spelled, limits⟩
    obtain ⟨n, reached⟩ := Progress.reaches_phrase proper .start spelled.symm (.inr rfl)
    exact ⟨_, Progress.run_ok_iff.mpr ⟨reached, limits⟩, rfl⟩

/-- No two proper phrases are spelled alike. -/
theorem tokens_injective {p q : Phrase} (hp : p.Proper) (hq : q.Proper)
    (same : p.tokens = q.tokens) : p = q := by
  have placed (ts : List Token) : (ts.map (Placed.mk 0)).map Placed.value = ts := by
    rw [List.map_map]
    exact List.map_id ts
  obtain ⟨n, first⟩ := Progress.reaches_phrase hp .start (placed p.tokens) (.inr rfl)
  obtain ⟨m, second⟩ := Progress.reaches_phrase hq .start (placed q.tokens) (.inr rfl)
  rw [same] at first
  cases first.deterministic second
  rfl

end Phrase

end FilterSql
