import FilterSql.Filter.Operator

/-! Predicates of the query language, and their text. -/

namespace FilterSql

inductive Comparison
  | equal
  | notEqual
  | greater
  | greaterOrEqual
  | less
  | lessOrEqual
  | like
  deriving DecidableEq, Repr

def Comparison.sql : Comparison → String
  | equal => "="
  | notEqual => "<>"
  | greater => ">"
  | greaterOrEqual => ">="
  | less => "<"
  | lessOrEqual => "<="
  | like => "LIKE"

inductive Predicate
  | notNull (column : String)
  /-- A column against the value bound to `placeholder`; when `folded`, both in lower case. -/
  | compare (column : String) (comparison : Comparison) (placeholder : String) (folded : Bool)
  | join (c : Connective) (left right : Predicate)
  deriving DecidableEq, Repr

namespace Predicate

def lower (s : String) : String :=
  "LOWER(" ++ s ++ ")"

def sql : Predicate → String
  | notNull column => column ++ " IS NOT NULL"
  | compare column comparison placeholder folded =>
    let value := ":" ++ placeholder
    if folded then lower column ++ " " ++ comparison.sql ++ " " ++ lower value
    else column ++ " " ++ comparison.sql ++ " " ++ value
  | join c left right => "(" ++ left.sql ++ " " ++ c.upper ++ " " ++ right.sql ++ ")"

end Predicate

end FilterSql
