import FilterSql.Filter.Basic
import FilterSql.Json
import FilterSql.Report.Styled

/-! A filter as an outline, one node on each line and its parts below it, and as JSON. -/

namespace FilterSql

namespace Filter

/-- Two spaces for each level. -/
def indent (depth : Nat) : String :=
  String.ofList (List.replicate (2 * depth) ' ')

def outlineFrom (depth : Nat) : Filter → Report
  | present path => [.plain (indent depth ++ path ++ " pr")]
  | compare path op value =>
    [.plain (indent depth ++ path ++ " " ++ op.keyword ++ " " ++ value.shown)]
  | join c left right =>
    [.plain (indent depth), ⟨[.bold, .yellow], c.upper⟩] ::
      (left.outlineFrom (depth + 1) ++ right.outlineFrom (depth + 1))

def outline (f : Filter) : Report :=
  f.outlineFrom 0

end Filter

namespace Literal

def typeName : Literal → String
  | text _ => "string"
  | number _ => "number"
  | boolean _ => "boolean"
  | timestamp _ _ => "timestamp"

def valueJson : Literal → Json
  | text s => .string s
  | number n => .ofNumber n
  | boolean b => .bool b
  | timestamp raw instant =>
    .object [("raw", .string raw), ("instant", .string instant.text)]

def toJson (l : Literal) : Json :=
  .object [("type", .string l.typeName), ("value", l.valueJson)]

end Literal

namespace Filter

def toJson : Filter → Json
  | present path => .object [("kind", .string "presence"), ("attribute", .string path)]
  | compare path op value =>
    .object [("kind", .string "comparison"), ("attribute", .string path),
      ("op", .string op.keyword), ("value", value.toJson)]
  | join c left right =>
    .object [("kind", .string "logical"), ("op", .string c.upper), ("left", left.toJson),
      ("right", right.toJson)]

end Filter

end FilterSql
