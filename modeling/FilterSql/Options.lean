import FilterSql.Filter.Basic
import FilterSql.Json

/-! Settings of the conversion, and their JSON form. -/

namespace FilterSql

structure Options where
  precedence : Precedence := .leftToRight
  /-- Whether the database itself ignores case. -/
  caseInsensitive : Bool := false
  allowedColumns : Option (List String) := none
  deriving DecidableEq, Repr

namespace Options

/-- The allow-list is left out where there is none. -/
def toJson (o : Options) : Json :=
  let allowed := match o.allowedColumns with
    | some columns => [("allowed_columns", Json.array (columns.map Json.string))]
    | none => []
  .object ([("precedence", .string o.precedence.name),
    ("case_insensitive_db", .bool o.caseInsensitive)] ++ allowed)

/-- A precedence by its name, or by an object whose only field has that name and no value. -/
def precedence? : Json → Option Precedence
  | .string s => Precedence.ofName? s
  | .object [(name, .null)] => Precedence.ofName? name
  | _ => none

def bool? : Json → Option Bool
  | .bool b => some b
  | _ => none

def string? : Json → Option String
  | .string s => some s
  | _ => none

def columns? : Json → Option (Option (List String))
  | .null => some none
  | .array items => (items.mapM string?).map some
  | _ => none

/-- Reads one setting, or keeps its default where it is missing. -/
def read? {α : Type} (value : Option Json) (default : α) (decode : Json → Option α) : Option α :=
  match value with
  | some j => decode j
  | none => some default

def ofParts? (precedence caseInsensitive allowed : Option Json) : Option Options := do
  let precedence ← read? precedence .leftToRight precedence?
  let caseInsensitive ← read? caseInsensitive false bool?
  let allowedColumns ← read? allowed none columns?
  return { precedence, caseInsensitive, allowedColumns }

/-- Reads the settings of an object; fields with other names do not count. -/
def ofJson? : Json → Option Options
  | .object fields =>
    ofParts? (fields.lookup "precedence") (fields.lookup "case_insensitive_db")
      (fields.lookup "allowed_columns")
  | _ => none

end Options

end FilterSql
