import FilterSql.Filter.Literal
import FilterSql.Text.Hex

/-! JSON values and their text, on one line or spread over several. -/

namespace FilterSql

/-- The fields of an object keep their order. -/
inductive Json
  | null
  | bool (b : Bool)
  | integer (n : Int)
  /-- A finite number. -/
  | decimal (x : Binary64)
  | string (s : String)
  | array (items : List Json)
  | object (fields : List (String × Json))
  deriving Repr, Inhabited

namespace Json

/-- Quotes, backslashes and controls are escaped; all else stands for itself. -/
def escape (c : Char) : List Char :=
  if c == '"' || c == '\\' then ['\\', c]
  else if c == '\x08' then ['\\', 'b']
  else if c == '\x0c' then ['\\', 'f']
  else if c == '\n' then ['\\', 'n']
  else if c == '\r' then ['\\', 'r']
  else if c == '\t' then ['\\', 't']
  else if c.toNat < 32 then
    let digits := Text.hexDigits c.toNat
    '\\' :: 'u' :: List.replicate (4 - digits.length) '0' ++ digits
  else [c]

def quote (s : String) : List Char :=
  '"' :: s.toList.flatMap escape ++ ['"']

def decimalText (x : Binary64) : List Char :=
  (Layout.json.write x).toList

mutual

def compact : Json → List Char
  | null => ['n', 'u', 'l', 'l']
  | bool b => (Literal.booleanText b).toList
  | integer n => (Number.integerText n).toList
  | decimal x => decimalText x
  | string s => quote s
  | array items => '[' :: compactItems items ++ [']']
  | object fields => '\x7b' :: compactFields fields ++ ['\x7d']

def compactItems : List Json → List Char
  | [] => []
  | [item] => compact item
  | item :: rest => compact item ++ ',' :: compactItems rest

def compactField : String × Json → List Char
  | (name, value) => quote name ++ ':' :: compact value

def compactFields : List (String × Json) → List Char
  | [] => []
  | [field] => compactField field
  | field :: rest => compactField field ++ ',' :: compactFields rest

end

/-- A new line, indented by two spaces for each level. -/
def newLine (level : Nat) : List Char :=
  '\n' :: List.replicate (2 * level) ' '

mutual

def pretty (level : Nat) : Json → List Char
  | null => ['n', 'u', 'l', 'l']
  | bool b => (Literal.booleanText b).toList
  | integer n => (Number.integerText n).toList
  | decimal x => decimalText x
  | string s => quote s
  | array [] => ['[', ']']
  | array items => '[' :: prettyItems (level + 1) items ++ newLine level ++ [']']
  | object [] => ['\x7b', '\x7d']
  | object fields => '\x7b' :: prettyFields (level + 1) fields ++ newLine level ++ ['\x7d']

def prettyItems (level : Nat) : List Json → List Char
  | [] => []
  | [item] => newLine level ++ pretty level item
  | item :: rest => newLine level ++ pretty level item ++ ',' :: prettyItems level rest

def prettyField (level : Nat) : String × Json → List Char
  | (name, value) => newLine level ++ quote name ++ ':' :: ' ' :: pretty level value

def prettyFields (level : Nat) : List (String × Json) → List Char
  | [] => []
  | [field] => prettyField level field
  | field :: rest => prettyField level field ++ ',' :: prettyFields level rest

end

/-- A number that is not finite has no JSON text, and null takes its place. -/
def ofNumber : Number → Json
  | .integer n => integer n
  | .decimal x => if x.isFinite then decimal x else null

/-- The text without any blanks between its parts. -/
def compactText (j : Json) : String :=
  String.ofList j.compact

/-- The text with every item and field on a line of its own. -/
def prettyText (j : Json) : String :=
  String.ofList (j.pretty 0)

/-- The value of a field, the first of that name. -/
def field? (name : String) : Json → Option Json
  | object fields => fields.lookup name
  | _ => none

end Json

end FilterSql
