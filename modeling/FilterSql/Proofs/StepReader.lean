import FilterSql.Filter.Parser

/-!
Filters as written, and a reader that takes their tokens one at a time. What has been read is kept as a stack of
open groups and the chain of the innermost one, so a mistake shows at the first token that no filter continues
with. How `and` and `or` bind is left open until all is read: grouping the phrase under a precedence gives the
filter.
-/

namespace FilterSql

/-- A chain grows at its right end: what a `chain` adds is a test or a group, never another chain. -/
inductive Phrase
  | present (path : String)
  | compare (path : String) (op : Operator) (value : Literal)
  | group (inner : Phrase)
  | chain (before : Phrase) (c : Connective) (last : Phrase)
  deriving DecidableEq, Repr

namespace Phrase

def isTerm : Phrase → Bool
  | chain _ _ _ => false
  | _ => true

def groupLeftToRight : Phrase → Filter
  | present path => .present path
  | compare path op value => .compare path op value
  | group inner => inner.groupLeftToRight
  | chain before c last => .join c before.groupLeftToRight last.groupLeftToRight

/-- A chain cut at its last `or`: the alternatives before it, and the conjunction after it. -/
structure Alternatives where
  before : Option Filter
  last : Filter

def Alternatives.filter (a : Alternatives) : Filter :=
  match a.before with
  | some before => .join .or before a.last
  | none => a.last

def alternatives : Phrase → Alternatives
  | present path => ⟨none, .present path⟩
  | compare path op value => ⟨none, .compare path op value⟩
  | group inner => ⟨none, inner.alternatives.filter⟩
  | chain before .and last =>
    let a := before.alternatives
    ⟨a.before, .join .and a.last last.alternatives.filter⟩
  | chain before .or last => ⟨some before.alternatives.filter, last.alternatives.filter⟩

def toFilter (p : Phrase) : Precedence → Filter
  | .leftToRight => p.groupLeftToRight
  | .andBindsTighter => p.alternatives.filter

end Phrase

/-- What stands before the next term of a chain: nothing, or the chain so far and a connective. -/
inductive Lead
  | start
  | after (chain : Phrase) (c : Connective)
  deriving DecidableEq, Repr

def Lead.add : Lead → Phrase → Phrase
  | start, term => term
  | after chain c, term => .chain chain c term

/-- A parenthesis still open, and what stood before it. -/
structure OpenGroup where
  position : Nat
  lead : Lead
  deriving DecidableEq, Repr

/-- What the innermost chain waits for. -/
inductive Waiting
  | term (lead : Lead)
  | operator (lead : Lead) (path : String)
  | value (lead : Lead) (path : String) (op : Operator) (position : Nat)
  /-- The chain may end here or go on. -/
  | connective (chain : Phrase)
  deriving DecidableEq, Repr

structure Progress where
  groups : List OpenGroup
  connectives : Nat
  waiting : Waiting
  deriving DecidableEq, Repr

namespace Progress

def start : Progress :=
  ⟨[], 0, .term .start⟩

def stepTerm (p : Progress) (lead : Lead) (t : Placed Token) : Except FilterError Progress :=
  match t.value with
  | .identifier path => .ok { p with waiting := .operator lead path }
  | .opening =>
    if maxDepth ≤ p.groups.length then .error (.tooDeep t.position)
    else .ok { p with groups := ⟨t.position, lead⟩ :: p.groups, waiting := .term .start }
  | _ => .error (.unexpectedToken t)

def stepOperator (p : Progress) (lead : Lead) (path : String) (t : Placed Token) :
    Except FilterError Progress :=
  match t.value with
  | .operator .present => .ok { p with waiting := .connective (lead.add (.present path)) }
  | .operator op => .ok { p with waiting := .value lead path op t.position }
  | .identifier word => .error (.unknownOperator word t.position)
  | _ => .error (.unexpectedToken t)

def stepValue (p : Progress) (lead : Lead) (path : String) (op : Operator) (position : Nat)
    (t : Placed Token) : Except FilterError Progress :=
  match t.value with
  | .literal value => .ok { p with waiting := .connective (lead.add (.compare path op value)) }
  | .connective _ | .closing => .error (.missingValue op position)
  | _ => .error (.unexpectedToken t)

/-- A token that cannot follow a complete chain is blamed on the innermost open parenthesis. -/
def stepConnective (p : Progress) (chain : Phrase) (t : Placed Token) :
    Except FilterError Progress :=
  match t.value, p.groups with
  | .connective c, _ =>
    if maxConnectives ≤ p.connectives then .error (.tooManyConnectives t.position)
    else .ok { p with connectives := p.connectives + 1, waiting := .term (.after chain c) }
  | .closing, g :: outer =>
    .ok { p with groups := outer, waiting := .connective (g.lead.add (.group chain)) }
  | _, g :: _ => .error (.unclosedGroup g.position)
  | _, [] => .error (.unexpectedToken t)

def step (p : Progress) (t : Placed Token) : Except FilterError Progress :=
  match p.waiting with
  | .term lead => p.stepTerm lead t
  | .operator lead path => p.stepOperator lead path t
  | .value lead path op position => p.stepValue lead path op position t
  | .connective chain => p.stepConnective chain t

/-- What the end of the tokens makes of it. -/
def finish (p : Progress) : Except FilterError Phrase :=
  match p.waiting, p.groups with
  | .term _, _ => .error .unexpectedEnd
  | .operator _ _, _ => .error .unexpectedEnd
  | .value _ _ op position, _ => .error (.missingValue op position)
  | .connective _, g :: _ => .error (.unclosedGroup g.position)
  | .connective chain, [] => .ok chain

end Progress

namespace Phrase

def ofTokens (tokens : List (Placed Token)) : Except FilterError Phrase := do
  (← tokens.foldlM Progress.step Progress.start).finish

def ofText (s : String) : Except FilterError Phrase := do
  ofTokens (← Filter.lexed s)

end Phrase

end FilterSql
