import FilterSql.Proofs.Results
import FilterSql.Proofs.StepReader

/-!
The parser beside the reader that takes one token at a time. Each rule of the parser takes the reader from where
the rule begins to where it ends, or both stop with the same error. So a filter is read in the same way under
every precedence, up to the grouping of what has been read.
-/

namespace FilterSql

/-! ## The reader from any point on -/

namespace Progress

/-- What the rest of the tokens makes of it. -/
def run (p : Progress) (ts : List (Placed Token)) : Except FilterError Phrase :=
  (ts.foldlM step p).bind finish

theorem run_cons (p : Progress) (t : Placed Token) (ts : List (Placed Token)) :
    p.run (t :: ts) = (p.step t).bind fun q => q.run ts := by
  simp only [run, List.foldlM_cons]
  cases p.step t <;> rfl

theorem run_of_step {p q : Progress} {t : Placed Token} (h : p.step t = .ok q)
    (ts : List (Placed Token)) : p.run (t :: ts) = q.run ts := by
  rw [run_cons, h]
  rfl

theorem run_of_refused {p : Progress} {t : Placed Token} {e : FilterError} (h : p.step t = .error e)
    (ts : List (Placed Token)) : p.run (t :: ts) = .error e := by
  rw [run_cons, h]
  rfl

end Progress

/-! ## What a chain has come to -/

namespace Phrase

theorem alternatives_of_isTerm {t : Phrase} (h : t.isTerm = true) :
    t.alternatives = ⟨none, t.alternatives.filter⟩ := by
  cases t with
  | chain before c last => cases h
  | present | compare | group => rfl

end Phrase

/-- The alternatives before an operand, where `and` binds tighter. -/
def Lead.alternatives : Lead → Option Filter
  | start => none
  | after chain _ => some chain.alternatives.filter

/-- The phrase is what stood before, with a term added that groups to the filter. -/
def AddsTerm (p : Precedence) (lead : Lead) (phrase : Phrase) (f : Filter) : Prop :=
  ∃ t : Phrase, phrase = lead.add t ∧ t.isTerm = true ∧ t.toFilter p = f

namespace ChainRule

/-- The precedence whose filters the rule reads. -/
def precedence : ChainRule → Precedence
  | mixed => .leftToRight
  | disjunction | conjunction => .andBindsTighter

/-- Where a chain of the rule can begin: within another chain only a conjunction can, behind an `or`. -/
def Begins : ChainRule → Lead → Prop
  | mixed, lead | disjunction, lead => lead = .start
  | conjunction, lead => ∀ chain, lead ≠ .after chain .and

/-- The phrase is what stood before, with an operand of the rule added, and the operand is the filter. -/
def Adds : ChainRule → Lead → Phrase → Filter → Prop
  | mixed, lead, phrase, f => AddsTerm .leftToRight lead phrase f
  | conjunction, lead, phrase, f => AddsTerm .andBindsTighter lead phrase f
  | disjunction, lead, phrase, f => phrase.alternatives = ⟨lead.alternatives, f⟩

/-- The phrase is what stood before, with a chain of the rule added, and the chain is the filter. -/
def Groups : ChainRule → Lead → Phrase → Filter → Prop
  | mixed, _, phrase, f => phrase.groupLeftToRight = f
  | disjunction, _, phrase, f => phrase.alternatives.filter = f
  | conjunction, lead, phrase, f => phrase.alternatives = ⟨lead.alternatives, f⟩

theorem groups_of_adds {rule : ChainRule} {lead : Lead} {phrase : Phrase} {f : Filter}
    (begins : rule.Begins lead) (adds : rule.Adds lead phrase f) : rule.Groups lead phrase f := by
  cases rule with
  | mixed =>
    obtain rfl : lead = .start := begins
    obtain ⟨t, rfl, -, grouped⟩ := adds
    exact grouped
  | disjunction =>
    obtain rfl : lead = .start := begins
    have alone : phrase.alternatives = ⟨none, f⟩ := adds
    simp only [Groups, alone, Phrase.Alternatives.filter]
  | conjunction =>
    obtain ⟨t, rfl, isTerm, rfl⟩ := adds
    cases lead with
    | start => exact Phrase.alternatives_of_isTerm isTerm
    | after chain c =>
      cases c with
      | and => exact absurd rfl (begins chain)
      | or => rfl

/-- A chain grows by an operand behind a connective that the rule accepts. -/
theorem groups_join {rule : ChainRule} {lead : Lead} {phrase phrase' : Phrase} {c : Connective}
    {f g : Filter} (accepted : c ∈ rule.accepted) (grouped : rule.Groups lead phrase f)
    (adds : rule.Adds (.after phrase c) phrase' g) : rule.Groups lead phrase' (.join c f g) := by
  cases rule with
  | mixed =>
    obtain ⟨t, rfl, -, rfl⟩ := adds
    exact congrArg (Filter.join c · t.groupLeftToRight) grouped
  | disjunction =>
    obtain rfl := List.mem_singleton.mp accepted
    have cut : phrase'.alternatives = ⟨some phrase.alternatives.filter, g⟩ := adds
    rw [Groups, cut]
    exact congrArg (Filter.join .or · g) grouped
  | conjunction =>
    obtain rfl := List.mem_singleton.mp accepted
    obtain ⟨t, rfl, -, rfl⟩ := adds
    have before : phrase.alternatives = ⟨lead.alternatives, f⟩ := grouped
    simp only [Groups, Lead.add, Phrase.alternatives, before, Phrase.toFilter]

/-- The connectives that cannot follow an operand of the rule, since the operand would have taken them. -/
def taken : ChainRule → List Connective
  | disjunction => [.and]
  | mixed | conjunction => []

end ChainRule

/-- None of the connectives comes first. -/
def NotAhead (cs : List Connective) (ts : List (Placed Token)) : Prop :=
  ∀ c ∈ cs, ∀ t ∈ ts.head?, t.value ≠ .connective c

/-! ## Rules and runs -/

/-- A rule of the parser and a run of the reader fail with the same error, or the run goes on where the rule has
ended, with a phrase in hand that fits what the rule has read. -/
inductive Agrees (outcome : Except FilterError Phrase) (groups : List OpenGroup) {size : Nat}
    (fits : Phrase → Parsed size → Prop) : Except FilterError (Parsed size) → Prop
  | error {e : FilterError} : outcome = .error e → Agrees outcome groups fits (.error e)
  | ok {r : Parsed size} (phrase : Phrase) : r.rest.depth = groups.length → fits phrase r →
      outcome = Progress.run ⟨groups, r.rest.connectives, .connective phrase⟩ r.rest.tokens →
      Agrees outcome groups fits (.ok r)

namespace Agrees

variable {outcome : Except FilterError Phrase} {groups : List OpenGroup} {size : Nat}
  {fits : Phrase → Parsed size → Prop} {read : Except FilterError (Parsed size)}

theorem bind {groups' : List OpenGroup} {size' : Nat} {fits' : Phrase → Parsed size' → Prop}
    {next : Parsed size → Except FilterError (Parsed size')} (first : Agrees outcome groups fits read)
    (second : ∀ r phrase, r.rest.depth = groups.length → fits phrase r →
      Agrees (Progress.run ⟨groups, r.rest.connectives, .connective phrase⟩ r.rest.tokens) groups' fits'
        (next r)) :
    Agrees outcome groups' fits' (read >>= next) := by
  cases first with
  | error failed => exact .error failed
  | ok phrase depth fitting goesOn =>
    rw [goesOn]
    exact second _ phrase depth fitting

theorem widen {larger : Nat} (le : size ≤ larger) {fits' : Phrase → Parsed larger → Prop}
    (h : Agrees outcome groups fits read)
    (same : ∀ phrase r, fits phrase r → fits' phrase (r.widen le)) :
    Agrees outcome groups fits' (read >>= fun r => pure (r.widen le)) :=
  h.bind fun r phrase depth fitting => .ok phrase depth (same phrase r fitting) rfl

theorem imp {fits' : Phrase → Parsed size → Prop} (h : Agrees outcome groups fits read)
    (weaker : ∀ phrase r, fits phrase r → fits' phrase r) : Agrees outcome groups fits' read := by
  cases h with
  | error failed => exact .error failed
  | ok phrase depth fitting goesOn => exact .ok phrase depth (weaker _ _ fitting) goesOn

end Agrees

namespace Parser

/-- What is asked of a chain from the given place on. -/
def ChainAgrees (p : Precedence) (rule : ChainRule) (s : Parser) : Prop :=
  rule.precedence = p → ∀ groups lead, s.depth = groups.length → rule.Begins lead →
    Agrees (Progress.run ⟨groups, s.connectives, .term lead⟩ s.tokens) groups
      (fun phrase r => rule.Groups lead phrase r.filter ∧
        NotAhead (rule.accepted ++ rule.taken) r.rest.tokens)
      (chain p rule s)

def LinksAgree (p : Precedence) (rule : ChainRule) {size : Nat} (left : Parsed size) : Prop :=
  rule.precedence = p → ∀ groups lead phrase, left.rest.depth = groups.length →
    rule.Groups lead phrase left.filter → NotAhead rule.taken left.rest.tokens →
    Agrees (Progress.run ⟨groups, left.rest.connectives, .connective phrase⟩ left.rest.tokens) groups
      (fun phrase r => rule.Groups lead phrase r.filter ∧
        NotAhead (rule.accepted ++ rule.taken) r.rest.tokens)
      (links p rule left)

def OperandAgrees (p : Precedence) (rule : ChainRule) (s : Parser) : Prop :=
  rule.precedence = p → ∀ groups lead, s.depth = groups.length →
    (rule = .disjunction → ChainRule.conjunction.Begins lead) →
    Agrees (Progress.run ⟨groups, s.connectives, .term lead⟩ s.tokens) groups
      (fun phrase r => rule.Adds lead phrase r.filter ∧ NotAhead rule.taken r.rest.tokens)
      (operand p rule s)

def TermAgrees (p : Precedence) (s : Parser) : Prop :=
  ∀ groups lead, s.depth = groups.length →
    Agrees (Progress.run ⟨groups, s.connectives, .term lead⟩ s.tokens) groups
      (fun phrase r => AddsTerm p lead phrase r.filter) (term p s)

/-! ### Terms -/

section Terms

variable (p : Precedence) {s : Parser} {groups : List OpenGroup} (depth : s.depth = groups.length)
  (lead : Lead) (path : String)
include depth

theorem value_agrees (op : Operator) (position : Nat) :
    Agrees (Progress.run ⟨groups, s.connectives, .value lead path op position⟩ s.tokens) groups
      (fun phrase r => AddsTerm p lead phrase r.filter) (value path op position s) := by
  obtain ⟨tokens, d, n⟩ := s
  cases tokens with
  | nil => exact .error rfl
  | cons t rest =>
    obtain ⟨_, token⟩ := t
    cases token with
    | literal v =>
      have grouped : (Phrase.compare path op v).toFilter p = .compare path op v := by cases p <;> rfl
      exact .ok _ depth ⟨.compare path op v, rfl, rfl, grouped⟩ (Progress.run_of_step rfl rest)
    | _ => exact .error (Progress.run_of_refused rfl rest)

theorem test_agrees :
    Agrees (Progress.run ⟨groups, s.connectives, .operator lead path⟩ s.tokens) groups
      (fun phrase r => AddsTerm p lead phrase r.filter) (test path s) := by
  obtain ⟨tokens, d, n⟩ := s
  cases tokens with
  | nil => exact .error rfl
  | cons t rest =>
    obtain ⟨position, token⟩ := t
    cases token with
    | operator op =>
      cases op with
      | present =>
        have grouped : (Phrase.present path).toFilter p = .present path := by cases p <;> rfl
        exact .ok _ depth ⟨.present path, rfl, rfl, grouped⟩ (Progress.run_of_step rfl rest)
      | _ =>
        rw [Progress.run_of_step rfl]
        exact (value_agrees p (s := ⟨rest, d, n⟩) depth lead path _ position).widen _ fun _ _ adds => adds
    | _ => exact .error (Progress.run_of_refused rfl rest)

end Terms

/-- The chain of an expression stops at a token that is no connective. -/
theorem ChainAgrees.expression {p : Precedence} {s : Parser} (h : ChainAgrees p p.rule s)
    (groups : List OpenGroup) (depth : s.depth = groups.length) :
    Agrees (Progress.run ⟨groups, s.connectives, .term .start⟩ s.tokens) groups
      (fun phrase r => phrase.toFilter p = r.filter ∧ ∀ t ∈ r.rest.tokens.head?, ∀ c, t.value ≠ .connective c)
      (chain p p.rule s) := by
  have under : p.rule.precedence = p := by cases p <;> rfl
  have begins : p.rule.Begins .start := by cases p <;> rfl
  have all (c : Connective) : c ∈ p.rule.accepted ++ p.rule.taken := by
    cases p <;> cases c <;> simp [Precedence.rule, ChainRule.accepted, ChainRule.taken]
  refine (h under groups .start depth begins).imp ?_
  rintro phrase r ⟨grouped, ended⟩
  refine ⟨?_, fun t ahead c => ended c (all c) t ahead⟩
  cases p <;> exact grouped

theorem close_agrees {position size : Nat} {lead : Lead} {groups : List OpenGroup} {phrase : Phrase}
    {inner : Parsed size} (depth : inner.rest.depth = groups.length + 1)
    (ended : ∀ t ∈ inner.rest.tokens.head?, ∀ c, t.value ≠ .connective c) :
    Agrees (Progress.run ⟨⟨position, lead⟩ :: groups, inner.rest.connectives, .connective phrase⟩
        inner.rest.tokens) groups
      (fun phrase' r => phrase' = lead.add (.group phrase) ∧ r.filter = inner.filter)
      (close position inner) := by
  obtain ⟨f, ⟨tokens, d, n⟩, shorter⟩ := inner
  cases tokens with
  | nil => exact .error rfl
  | cons t rest =>
    obtain ⟨_, token⟩ := t
    cases token with
    | closing => exact .ok _ (Nat.sub_eq_of_eq_add depth) ⟨rfl, rfl⟩ (Progress.run_of_step rfl rest)
    | connective c => exact absurd rfl (ended _ rfl c)
    | _ => exact .error (Progress.run_of_refused rfl rest)

theorem term_agrees_group {p : Precedence} {position d n : Nat} {rest : List (Placed Token)}
    (room : ¬ maxDepth ≤ d) (inner : ChainAgrees p p.rule ⟨rest, d + 1, n⟩) :
    TermAgrees p ⟨⟨position, .opening⟩ :: rest, d, n⟩ := by
  intro groups lead (depth : d = groups.length)
  have taken : Progress.step ⟨groups, n, .term lead⟩ ⟨position, .opening⟩ =
      .ok ⟨⟨position, lead⟩ :: groups, n, .term .start⟩ :=
    if_neg (depth ▸ room)
  have read := inner.expression (⟨position, lead⟩ :: groups) (congrArg Nat.succ depth)
  have whole (phrase : Phrase) : (Phrase.group phrase).toFilter p = phrase.toFilter p := by
    cases p <;> rfl
  rw [term, if_neg room, Progress.run_of_step taken]
  refine read.bind ?_
  rintro r phrase depth' ⟨grouped, ended⟩
  refine (close_agrees depth' ended).widen _ ?_
  rintro _ group ⟨rfl, same⟩
  exact ⟨.group phrase, rfl, rfl, (whole phrase).trans (grouped.trans same.symm)⟩

/-! ### Chains -/

theorem connective?_cases (accepted : List Connective) (s : Parser) :
    connective? accepted s = .ok none ∧ NotAhead accepted s.tokens ∨
    ∃ c ∈ accepted, ∃ position rest, s.tokens = ⟨position, .connective c⟩ :: rest ∧
      (maxConnectives ≤ s.connectives ∧ connective? accepted s = .error (.tooManyConnectives position) ∨
      s.connectives < maxConnectives ∧ ∃ shorter, connective? accepted s =
        .ok (some (c, ⟨⟨rest, s.depth, s.connectives + 1⟩, shorter⟩))) := by
  obtain ⟨tokens, d, n⟩ := s
  have absent {ts : List (Placed Token)} (other : ∀ t ∈ ts.head?, ∀ c ∈ accepted, t.value ≠ .connective c) :
      NotAhead accepted ts := fun c member t ahead => other t ahead c member
  cases tokens with
  | nil => exact .inl ⟨rfl, absent nofun⟩
  | cons t rest =>
    obtain ⟨position, token⟩ := t
    cases token with
    | connective c =>
      by_cases member : c ∈ accepted
      · refine .inr ⟨c, member, position, rest, rfl, ?_⟩
        by_cases full : maxConnectives < n + 1
        · exact .inl ⟨Nat.le_of_lt_succ full, by simp [connective?, member, full]⟩
        · exact .inr ⟨Nat.lt_of_succ_le (Nat.not_lt.mp full), Nat.lt_succ_self _,
            by simp [connective?, member, full]⟩
      · refine .inl ⟨by simp [connective?, member], absent ?_⟩
        rintro t ⟨⟩ d other ⟨⟩
        exact member other
    | _ => exact .inl ⟨rfl, absent (by rintro t ⟨⟩ d - ⟨⟩)⟩

theorem links_agree {p : Precedence} {rule : ChainRule} {size : Nat} {left : Parsed size}
    (operands : ∀ next : Parser, next.size < left.rest.size → OperandAgrees p rule next)
    (longer : ∀ (c : Connective) (next : Parser) (before : next.size < left.rest.size)
      (right : Parsed next.size), LinksAgree p rule (left.join c right (Nat.le_of_lt before))) :
    LinksAgree p rule left := by
  intro under groups lead phrase depth grouped ended
  rw [links]
  obtain ⟨none, notAhead⟩ | ⟨c, accepted, position, rest, ahead, ⟨full, failed⟩ | ⟨room, shorter, next⟩⟩ :=
    connective?_cases rule.accepted left.rest
  · rw [none]
    exact .ok phrase depth ⟨grouped, List.forall_mem_append.mpr ⟨notAhead, ended⟩⟩ rfl
  · have refused : Progress.step ⟨groups, left.rest.connectives, .connective phrase⟩
        ⟨position, .connective c⟩ = .error (.tooManyConnectives position) :=
      if_pos full
    rw [failed, ahead]
    exact .error (Progress.run_of_refused refused rest)
  · have taken : Progress.step ⟨groups, left.rest.connectives, .connective phrase⟩
        ⟨position, .connective c⟩ = .ok ⟨groups, left.rest.connectives + 1, .term (.after phrase c)⟩ :=
      if_neg (Nat.not_le.mpr room)
    have begins : rule = .disjunction → ChainRule.conjunction.Begins (.after phrase c) := by
      rintro rfl chain ⟨⟩
      simp [ChainRule.accepted] at accepted
    rw [next, ahead, Progress.run_of_step taken]
    refine (operands _ shorter under groups (.after phrase c) depth begins).bind ?_
    rintro right phrase' depth' ⟨adds, ended'⟩
    exact longer c _ shorter right under groups lead phrase' depth'
      (ChainRule.groups_join accepted grouped adds) ended'

/-- Every rule of the parser agrees with the reader, wherever it begins. -/
theorem rules_agree (p : Precedence) :
    (∀ rule s, ChainAgrees p rule s) ∧
    (∀ rule size (left : Parsed size), LinksAgree p rule left) ∧
    (∀ rule s, OperandAgrees p rule s) ∧ ∀ s, TermAgrees p s := by
  apply chain.mutual_induct p
  case case1 =>
    intro rule s operands links under groups lead depth begins
    have begins' : rule = .disjunction → ChainRule.conjunction.Begins lead := by
      rintro rfl chain rfl
      cases begins
    rw [chain]
    refine (operands under groups lead depth begins').bind ?_
    rintro r phrase depth' ⟨adds, ended⟩
    exact links r under groups lead phrase depth' (ChainRule.groups_of_adds begins adds) ended
  case case2 =>
    intro rule size left operands longer
    exact links_agree operands longer
  case case3 =>
    intro s conjunction under groups lead depth begins
    rw [operand]
    exact (conjunction under groups lead depth (begins rfl)).imp fun _ _ => id
  case case4 | case5 =>
    rintro s term rfl groups lead depth -
    rw [operand]
    exact (term groups lead depth).imp fun _ _ adds => ⟨adds, nofun⟩
  case case6 =>
    intro d n groups lead depth
    rw [term]
    exact .error rfl
  case case7 =>
    rintro ⟨position, token⟩ rest d n (rfl : token = _) full groups lead depth
    have refused : Progress.step ⟨groups, n, .term lead⟩ ⟨position, .opening⟩ = .error (.tooDeep position) :=
      if_pos (depth ▸ full)
    rw [term, if_pos full]
    exact .error (Progress.run_of_refused refused rest)
  case case8 =>
    rintro ⟨position, token⟩ rest d n (rfl : token = _) room inner
    exact term_agrees_group room inner
  case case9 =>
    rintro ⟨position, token⟩ rest d n path (rfl : token = _) groups lead depth
    rw [term, Progress.run_of_step rfl]
    exact (test_agrees p (s := ⟨rest, d, n⟩) depth lead path).widen _ fun _ _ adds => adds
  case case10 =>
    rintro ⟨position, token⟩ rest d n noGroup noTest groups lead depth
    rw [term]
    cases token with
    | opening => exact absurd rfl noGroup
    | identifier path => exact absurd rfl (noTest path)
    | _ => exact .error (Progress.run_of_refused rfl rest)

end Parser

/-- The parser reads what the reader reads, and groups it under its precedence. -/
theorem Filter.ofTokens_eq (p : Precedence) (tokens : List (Placed Token)) :
    Filter.ofTokens p tokens = (Phrase.ofTokens tokens).map fun phrase => phrase.toFilter p := by
  have agree := ((Parser.rules_agree p).1 p.rule ⟨tokens, 0, 0⟩).expression [] rfl
  have reader : Phrase.ofTokens tokens = Progress.run ⟨[], 0, .term .start⟩ tokens := rfl
  rw [reader, Filter.ofTokens]
  generalize Parser.chain p p.rule ⟨tokens, 0, 0⟩ = read at agree ⊢
  cases agree with
  | error failed =>
    rw [failed]
    rfl
  | @ok r phrase depth fitting goesOn =>
    obtain ⟨f, ⟨rest, d, n⟩, shorter⟩ := r
    obtain ⟨grouped, ended⟩ := fitting
    rw [goesOn]
    cases rest with
    | nil => exact congrArg Except.ok grouped.symm
    | cons t rest =>
      obtain ⟨position, token⟩ := t
      cases token with
      | connective c => exact absurd rfl (ended _ rfl c)
      | _ =>
        rw [Progress.run_of_refused rfl]
        rfl

theorem Filter.ofText_eq (p : Precedence) (s : String) :
    Filter.ofText p s = (Phrase.ofText s).map fun phrase => phrase.toFilter p := by
  rw [Filter.ofText, Phrase.ofText]
  cases Filter.lexed s with
  | error e => rfl
  | ok tokens => exact Filter.ofTokens_eq p tokens

theorem Filter.ofText_ok_iff_phrase {p : Precedence} {s : String} {f : Filter} :
    Filter.ofText p s = .ok f ↔ ∃ phrase, Phrase.ofText s = .ok phrase ∧ phrase.toFilter p = f := by
  rw [Filter.ofText_eq, map_ok_iff]

/-- What is wrong with a text does not depend on the precedence. -/
theorem Filter.ofText_error_iff_phrase {p : Precedence} {s : String} {e : FilterError} :
    Filter.ofText p s = .error e ↔ Phrase.ofText s = .error e := by
  rw [Filter.ofText_eq, map_error_iff]

end FilterSql
