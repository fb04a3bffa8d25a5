import FilterSql.Decimal.Binary64

/-! Values of a TOML document. -/

namespace FilterSql.Toml

/-- How a table came to be, which decides what may still be added to it. -/
inductive Origin
  /-- By a header of its own, or as the document itself. -/
  | header
  /-- Only as a part of longer headers. -/
  | implied
  /-- As a part of a dotted key. -/
  | dotted
  /-- Between braces; nothing can be added later. -/
  | inline
  deriving DecidableEq, Repr

inductive Value
  | text (s : String)
  | integer (n : Int)
  | decimal (x : Binary64)
  | boolean (b : Bool)
  /-- A date, a time, or both, in its normal spelling. -/
  | moment (s : String)
  | array (items : List Value)
  | table (origin : Origin) (entries : List (String × Value))
  /-- Tables that were added one by one under the same header. -/
  | tables (earlier : List (List (String × Value))) (last : List (String × Value))
  deriving Repr

/-- What a table holds, in the order in which it was written. -/
abbrev Entries := List (String × Value)

/-- The items of an array, however it was written. -/
def Value.items? : Value → Option (List Value)
  | array items => some items
  | tables earlier last => some ((earlier ++ [last]).map (table .header))
  | _ => none

end FilterSql.Toml
