import FilterSql.Filter.Literal
import FilterSql.Filter.Operator

/-! Filters as trees of tests on attributes, and the ways in which their connectives bind. -/

namespace FilterSql

inductive Filter
  | present (path : String)
  | compare (path : String) (op : Operator) (value : Literal)
  | join (c : Connective) (left right : Filter)
  deriving DecidableEq, Repr

namespace Filter

/-- The number of values that the filter compares with. -/
def literalCount : Filter → Nat
  | present _ => 0
  | compare _ _ _ => 1
  | join _ left right => left.literalCount + right.literalCount

end Filter

/-- How `and` and `or` bind where no parentheses tell. -/
inductive Precedence
  /-- Both bind alike, from left to right. -/
  | leftToRight
  | andBindsTighter
  deriving DecidableEq, Repr

namespace Precedence

def all : List Precedence := [leftToRight, andBindsTighter]

def name : Precedence → String
  | leftToRight => "left-to-right"
  | andBindsTighter => "and-binds-tighter"

def ofName? (s : String) : Option Precedence :=
  all.find? fun p => p.name == s

end Precedence

end FilterSql
