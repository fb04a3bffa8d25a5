import FilterSql.Resolver
import FilterSql.Text.Blank

/-! The order clause of a query. -/

namespace FilterSql

inductive Direction
  | ascending
  | descending
  deriving DecidableEq, Repr

def Direction.sql : Direction → String
  | ascending => "ASC"
  | descending => "DESC"

structure Order where
  column : String
  direction : Direction
  deriving DecidableEq, Repr

namespace Order

def sql (o : Order) : String :=
  "ORDER BY " ++ o.column ++ " " ++ o.direction.sql

/-- The clause as it follows a predicate. -/
def clause (o : Order) : String :=
  " " ++ o.sql

/-- The order for a sort key; blanks around the key do not count, and a blank key asks for no order. -/
def ofKey (r : Resolver) (key : Option String) (direction : Direction) :
    Except FilterError (Option Order) :=
  let key := Text.trim (key.getD "")
  if key.isEmpty then .ok none
  else if !Text.isName key then .error (.invalidSortKey key)
  else (r.resolve key).map fun column => some ⟨column.name, direction⟩

end Order

end FilterSql
