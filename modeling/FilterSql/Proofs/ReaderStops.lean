import FilterSql.Proofs.LexedTokens
import FilterSql.Proofs.ReaderMoves
import FilterSql.Proofs.Results

/-!
Where the reader stops, and what it says there. The end of the tokens counts as one more step, with no
token to take.
-/

namespace FilterSql

namespace Progress

/-- What the reader says where it cannot go on with the next token, or with the end in its place. -/
inductive Refuses : Progress → Option (Placed Token) → FilterError → Prop
  | ended (p : Progress) : Refuses p none .unexpectedEnd
  | unexpected (p : Progress) (t : Placed Token) : Refuses p (some t) (.unexpectedToken t)
  | tooDeep {groups : List OpenGroup} {n position : Nat} {lead : Lead}
      (full : maxDepth ≤ groups.length) :
      Refuses ⟨groups, n, .term lead⟩ (some ⟨position, .opening⟩) (.tooDeep position)
  | unknownOperator {groups : List OpenGroup} {n position : Nat} {lead : Lead} {path : String}
      (word : String) :
      Refuses ⟨groups, n, .operator lead path⟩ (some ⟨position, .identifier word⟩)
        (.unknownOperator word position)
  | missingValue {groups : List OpenGroup} {n start : Nat} {lead : Lead} {path : String}
      {op : Operator} {next : Option (Placed Token)}
      (ends : ∀ t ∈ next, t.value = .closing ∨ ∃ c, t.value = .connective c) :
      Refuses ⟨groups, n, .value lead path op start⟩ next (.missingValue op start)
  | tooManyConnectives {groups : List OpenGroup} {n position : Nat} {chain : Phrase}
      {c : Connective} (full : maxConnectives ≤ n) :
      Refuses ⟨groups, n, .connective chain⟩ (some ⟨position, .connective c⟩)
        (.tooManyConnectives position)
  | unclosedGroup {g : OpenGroup} {outer : List OpenGroup} {n : Nat} {chain : Phrase}
      {next : Option (Placed Token)}
      (stuck : ∀ t ∈ next, t.value ≠ .closing ∧ ∀ c, t.value ≠ .connective c) :
      Refuses ⟨g :: outer, n, .connective chain⟩ next (.unclosedGroup g.position)

theorem refuses_of_step {p : Progress} {t : Placed Token} {e : FilterError}
    (h : p.step t = .error e) : Refuses p (some t) e := by
  obtain ⟨groups, n, waiting⟩ := p
  obtain ⟨position, token⟩ := t
  cases waiting with
  | term lead =>
    cases token with
    | identifier path => cases h
    | opening =>
      simp only [step, stepTerm] at h
      split at h
      · rename_i full
        cases h
        exact .tooDeep full
      · cases h
    | _ =>
      cases h
      exact .unexpected _ _
  | operator lead path =>
    cases token with
    | identifier word =>
      cases h
      exact .unknownOperator word
    | operator op => cases op <;> cases h
    | _ =>
      cases h
      exact .unexpected _ _
  | value lead path op start =>
    cases token with
    | literal value => cases h
    | connective c =>
      cases h
      exact .missingValue (by simp)
    | closing =>
      cases h
      exact .missingValue (by simp)
    | _ =>
      cases h
      exact .unexpected _ _
  | connective chain =>
    cases token with
    | connective c =>
      simp only [step, stepConnective] at h
      split at h
      · rename_i full
        cases h
        exact .tooManyConnectives full
      · cases h
    | closing =>
      cases groups with
      | nil =>
        cases h
        exact .unexpected _ _
      | cons g outer => cases h
    | _ =>
      cases groups with
      | nil =>
        cases h
        exact .unexpected _ _
      | cons g outer =>
        cases h
        exact .unclosedGroup (by simp)

theorem refuses_of_finish {p : Progress} {e : FilterError} (h : p.finish = .error e) :
    Refuses p none e := by
  obtain ⟨groups, n, waiting⟩ := p
  cases waiting with
  | term lead | operator lead path =>
    cases h
    exact .ended _
  | value lead path op start =>
    cases h
    exact .missingValue (by simp)
  | connective chain =>
    cases groups with
    | nil => cases h
    | cons g outer =>
      cases h
      exact .unclosedGroup (by simp)

/-- A reading that fails takes some of the tokens and is refused the next one. -/
theorem exists_refused {p : Progress} {ts : List (Placed Token)} {e : FilterError}
    (h : (ts.foldlM step p).bind finish = .error e) :
    ∃ before rest q, ts = before ++ rest ∧ before.foldlM step p = .ok q ∧
      Refuses q rest.head? e := by
  induction ts generalizing p with
  | nil => exact ⟨[], [], p, rfl, rfl, refuses_of_finish h⟩
  | cons t ts ih =>
    rw [List.foldlM_cons] at h
    cases stepped : p.step t with
    | error cause =>
      rw [stepped] at h
      cases h
      exact ⟨[], t :: ts, p, rfl, rfl, refuses_of_step stepped⟩
    | ok q =>
      rw [stepped] at h
      obtain ⟨before, rest, last, rfl, ran, refused⟩ := ih h
      refine ⟨t :: before, rest, last, rfl, ?_, refused⟩
      rw [List.foldlM_cons, stepped]
      exact ran

/-- The reader never goes beyond the limits. -/
theorem run_within {ts : List (Placed Token)} {p : Progress}
    (ran : ts.foldlM step start = .ok p) :
    p.groups.length ≤ maxDepth ∧ p.connectives ≤ maxConnectives := by
  induction ts using List.reverseRecOn generalizing p with
  | nil =>
    cases ran
    exact ⟨Nat.zero_le _, Nat.zero_le _⟩
  | append_singleton ts t ih =>
    obtain ⟨q, before, last⟩ := run_concat.mp ran
    obtain ⟨depth, count⟩ := ih before
    obtain ⟨move, allowed⟩ := moves_of_step last
    cases move with
    | opening => exact ⟨allowed, count⟩
    | connective c => exact ⟨depth, allowed⟩
    | closing => exact ⟨Nat.le_of_succ_le depth, count⟩
    | _ => exact ⟨depth, count⟩

/-! ## The last token taken -/

theorem Reaches.operator {ts : List (Placed Token)} {groups : List OpenGroup} {n : Nat} {lead : Lead}
    {path : String} (h : Reaches ts ⟨groups, n, .operator lead path⟩) :
    ∃ front start, ts = front ++ [⟨start, .identifier path⟩] := by
  generalize reached : (⟨groups, n, .operator lead path⟩ : Progress) = p at h
  cases h with
  | start => cases reached
  | next before move =>
    subst reached
    cases move
    exact ⟨_, _, rfl⟩

theorem Reaches.value {ts : List (Placed Token)} {groups : List OpenGroup} {n start : Nat}
    {lead : Lead} {path : String} {op : Operator}
    (h : Reaches ts ⟨groups, n, .value lead path op start⟩) :
    op ≠ .present ∧ ∃ front, ts = front ++ [⟨start, .operator op⟩] := by
  generalize reached : (⟨groups, n, .value lead path op start⟩ : Progress) = p at h
  cases h with
  | start => cases reached
  | next before move =>
    subst reached
    cases move with
    | operator valued => exact ⟨valued, _, rfl⟩

end Progress

/-! ## Failing texts -/

/-- A text fails before its tokens are read, or where its tokens fail. -/
theorem ofText_error {p : Precedence} {s : String} {e : FilterError}
    (failed : Filter.ofText p s = .error e) :
    e = .empty ∨ e = .lexical (Tokens.ofText s).mistakes ∨
      Phrase.ofTokens (Tokens.ofText s).tokens = .error e := by
  rw [Filter.ofText_error_iff_phrase] at failed
  cases blank : Text.allBlank s with
  | true =>
    rw [Phrase.ofText, Filter.lexed_of_blank blank] at failed
    cases failed
    exact .inl rfl
  | false =>
    by_cases clean : (Tokens.ofText s).mistakes = []
    · rw [Phrase.ofText, Filter.lexed_of_clean clean blank] at failed
      exact .inr (.inr failed)
    · rw [Phrase.ofText, Filter.lexed_of_mistakes clean blank] at failed
      cases failed
      exact .inr (.inl rfl)

/-- Where the tokens of a text fail, the reader has taken some of them, within the limits, and is refused
the next one. -/
theorem exists_stop {ts : List (Placed Token)} {e : FilterError}
    (failed : Phrase.ofTokens ts = .error e) :
    ∃ before rest p, ts = before ++ rest ∧ Progress.Reaches before p ∧
      p.groups.length ≤ maxDepth ∧ p.connectives ≤ maxConnectives ∧
      p.Refuses rest.head? e := by
  obtain ⟨before, rest, p, whole, ran, refused⟩ := Progress.exists_refused failed
  obtain ⟨depth, count⟩ := Progress.run_within ran
  exact ⟨before, rest, p, whole, (Progress.run_ok_iff.mp ran).1, depth, count, refused⟩

end FilterSql
