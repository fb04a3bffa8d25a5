/-! Comparison operators and connectives, with the words that stand for them. -/

namespace FilterSql

inductive Operator
  | present
  | equal
  | notEqual
  | contains
  | startsWith
  | endsWith
  | greater
  | greaterOrEqual
  | less
  | lessOrEqual
  deriving DecidableEq, Repr

namespace Operator

def all : List Operator :=
  [present, equal, notEqual, contains, startsWith, endsWith, greater, greaterOrEqual, less,
   lessOrEqual]

def keyword : Operator → String
  | present => "pr"
  | equal => "eq"
  | notEqual => "ne"
  | contains => "co"
  | startsWith => "sw"
  | endsWith => "ew"
  | greater => "gt"
  | greaterOrEqual => "ge"
  | less => "lt"
  | lessOrEqual => "le"

/-- The operators that look for a part of a text. -/
def matchesPart : Operator → Bool
  | contains | startsWith | endsWith => true
  | _ => false

/-- Reads an operator word in any case. -/
def ofWord? (word : String) : Option Operator :=
  all.find? fun op => op.keyword == word.toLower

end Operator

inductive Connective
  | and
  | or
  deriving DecidableEq, Repr

namespace Connective

def keyword : Connective → String
  | and => "and"
  | or => "or"

/-- The connective as reports and clauses write it. -/
def upper : Connective → String
  | and => "AND"
  | or => "OR"

end Connective

end FilterSql
