import FilterSql.Filter.Token
import FilterSql.Json
import FilterSql.Report.Styled

/-! The tokens of a filter as a report and as JSON. -/

namespace FilterSql

namespace Token

def kindName : Token → String
  | identifier _ => "identifier"
  | operator _ => "operator"
  | literal (.text _) => "string"
  | literal (.timestamp _ _) => "datetime"
  | literal (.number _) => "number"
  | literal (.boolean _) => "boolean"
  | connective _ => "connective"
  | opening | closing => "paren"

/-- The token by itself: only texts are quoted. -/
def bare : Token → String
  | identifier name => name
  | operator op => op.keyword
  | literal value => value.shown
  | connective c => c.keyword
  | opening => "("
  | closing => ")"

def heading : Line :=
  .styled [.dim] (padRight 5 "Pos" ++ " " ++ padRight 11 "Kind" ++ " Token")

def row (t : Placed Token) : Line :=
  [.plain (padRight 5 (Number.integerText t.position) ++ " "),
   ⟨[.cyan], padRight 11 t.value.kindName⟩, .plain (" " ++ t.value.bare)]

def report (tokens : List (Placed Token)) : Report :=
  if tokens.isEmpty then [.plain "No tokens."] else heading :: tokens.map row

def toJson (t : Placed Token) : Json :=
  .object [("position", .integer t.position), ("kind", .string t.value.kindName),
    ("text", .string t.value.bare)]

def listToJson (tokens : List (Placed Token)) : Json :=
  .object [("tokens", .array (tokens.map toJson))]

end Token

end FilterSql
