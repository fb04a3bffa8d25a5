import FilterSql.Filter.Basic
import FilterSql.Filter.Error
import FilterSql.Filter.Lexeme

/-!
Reading filters by recursive descent. Where both connectives bind alike there is one rule for chains of terms;
where `and` binds tighter there are two, one within the other. The rules share the counts that limit a filter.
-/

namespace FilterSql

/-- What is still to be read, and the counts that limit it: parentheses open and connectives taken. -/
structure Parser where
  tokens : List (Placed Token)
  depth : Nat
  connectives : Nat
  deriving DecidableEq, Repr

def Parser.size (s : Parser) : Nat :=
  s.tokens.length

/-- A filter read where `size` tokens were left, and the parser behind it. At least one token is gone. -/
structure Parsed (size : Nat) where
  filter : Filter
  rest : Parser
  shorter : rest.size < size

namespace Parsed

def widen {size larger : Nat} (le : size ≤ larger) (r : Parsed size) : Parsed larger :=
  ⟨r.filter, r.rest, Nat.lt_of_lt_of_le r.shorter le⟩

/-- Joins a filter to what was read before it. -/
def join {size between : Nat} (left : Parsed size) (c : Connective) (right : Parsed between)
    (le : between ≤ left.rest.size) : Parsed size :=
  ⟨.join c left.filter right.filter, right.rest,
    Nat.lt_trans (Nat.lt_of_lt_of_le right.shorter le) left.shorter⟩

end Parsed

/-- The rules of the grammar that chain operands. -/
inductive ChainRule
  /-- `term (("and" | "or") term)*` -/
  | mixed
  /-- `conjunction ("or" conjunction)*` -/
  | disjunction
  /-- `term ("and" term)*` -/
  | conjunction
  deriving DecidableEq, Repr

namespace ChainRule

def accepted : ChainRule → List Connective
  | mixed => [.and, .or]
  | disjunction => [.or]
  | conjunction => [.and]

/-- How many rules stand between this one and the terms. -/
def rank : ChainRule → Nat
  | disjunction => 2
  | mixed | conjunction => 1

theorem rank_le (rule : ChainRule) : rule.rank ≤ 2 := by
  cases rule <;> decide

end ChainRule

def Precedence.rule : Precedence → ChainRule
  | leftToRight => .mixed
  | andBindsTighter => .disjunction

namespace Parser

/-- Takes the next token if it is a connective of the accepted ones. -/
def connective? (accepted : List Connective) (s : Parser) :
    Except FilterError (Option (Connective × {next : Parser // next.size < s.size})) :=
  match s with
  | ⟨⟨position, .connective c⟩ :: rest, depth, count⟩ =>
    if accepted.contains c then
      if maxConnectives < count + 1 then .error (.tooManyConnectives position)
      else .ok (some (c, ⟨⟨rest, depth, count + 1⟩, Nat.lt_succ_self _⟩))
    else .ok none
  | _ => .ok none

/-- Reads the value that an operator is to be compared with. -/
def value (path : String) (op : Operator) (position : Nat) (s : Parser) :
    Except FilterError (Parsed s.size) :=
  match s with
  | ⟨[], _, _⟩ => .error (.missingValue op position)
  | ⟨t :: rest, depth, count⟩ =>
    match t.value with
    | .literal value => .ok ⟨.compare path op value, ⟨rest, depth, count⟩, Nat.lt_succ_self _⟩
    | .connective _ | .closing => .error (.missingValue op position)
    | _ => .error (.unexpectedToken t)

/-- Reads what follows an attribute. -/
def test (path : String) (s : Parser) : Except FilterError (Parsed s.size) :=
  match s with
  | ⟨[], _, _⟩ => .error .unexpectedEnd
  | ⟨t :: rest, depth, count⟩ =>
    match t.value with
    | .operator .present => .ok ⟨.present path, ⟨rest, depth, count⟩, Nat.lt_succ_self _⟩
    | .operator op => do
      let read ← value path op t.position ⟨rest, depth, count⟩
      return read.widen (Nat.le_succ _)
    | .identifier word => .error (.unknownOperator word t.position)
    | _ => .error (.unexpectedToken t)

/-- Takes the parenthesis that ends a group. -/
def close (position : Nat) {size : Nat} : Parsed size → Except FilterError (Parsed size)
  | ⟨filter, ⟨⟨_, .closing⟩ :: rest, depth, count⟩, shorter⟩ =>
    .ok ⟨filter, ⟨rest, depth - 1, count⟩, Nat.lt_of_succ_lt shorter⟩
  | _ => .error (.unclosedGroup position)

mutual

/-- Reads operands with connectives between them, as many as there are. -/
def chain (p : Precedence) (rule : ChainRule) (s : Parser) : Except FilterError (Parsed s.size) := do
  links p rule (← operand p rule s)
termination_by 5 * s.size + 2 * rule.rank
decreasing_by
  · cases rule <;> simp [ChainRule.rank]
  · rename_i left
    have := left.shorter
    omega

/-- Reads the operands that follow the first ones. -/
def links (p : Precedence) (rule : ChainRule) {size : Nat} (left : Parsed size) :
    Except FilterError (Parsed size) := do
  match ← left.rest.connective? rule.accepted with
  | none => return left
  | some (c, ⟨next, before⟩) =>
    let right ← operand p rule next
    links p rule (left.join c right (Nat.le_of_lt before))
termination_by 5 * left.rest.size
decreasing_by
  · cases rule <;> simp only [ChainRule.rank] <;> omega
  · have := right.shorter
    simp only [Parsed.join]
    omega

def operand (p : Precedence) (rule : ChainRule) (s : Parser) : Except FilterError (Parsed s.size) :=
  match rule with
  | .disjunction => chain p .conjunction s
  | .mixed | .conjunction => term p s
termination_by 5 * s.size + 2 * rule.rank - 1
decreasing_by all_goals simp [ChainRule.rank]

/-- Reads a test, or an expression in parentheses. -/
def term (p : Precedence) (s : Parser) : Except FilterError (Parsed s.size) :=
  match s with
  | ⟨[], _, _⟩ => .error .unexpectedEnd
  | ⟨t :: rest, depth, count⟩ =>
    match t.value with
    | .opening =>
      if maxDepth ≤ depth then .error (.tooDeep t.position)
      else do
        let group ← close t.position (← chain p p.rule ⟨rest, depth + 1, count⟩)
        return group.widen (Nat.le_succ _)
    | .identifier path => do
      let read ← test path ⟨rest, depth, count⟩
      return read.widen (Nat.le_succ _)
    | _ => .error (.unexpectedToken t)
termination_by 5 * s.size
decreasing_by
  have := p.rule.rank_le
  simp only [size, List.length_cons]
  omega

end

end Parser

/-- Reads tokens as a filter, to the last one. -/
def Filter.ofTokens (p : Precedence) (tokens : List (Placed Token)) : Except FilterError Filter := do
  let read ← Parser.chain p p.rule ⟨tokens, 0, 0⟩
  match read.rest.tokens with
  | [] => return read.filter
  | t :: _ => .error (.unexpectedToken t)

/-- The tokens of a text, unless it has none or something in it is none. -/
def Filter.lexed (s : String) : Except FilterError (List (Placed Token)) :=
  if Text.allBlank s then .error .empty
  else
    let found := Tokens.ofText s
    if !found.mistakes.isEmpty then .error (.lexical found.mistakes)
    else if found.tokens.isEmpty then .error .empty
    else .ok found.tokens

def Filter.ofText (p : Precedence) (s : String) : Except FilterError Filter := do
  Filter.ofTokens p (← Filter.lexed s)

end FilterSql
