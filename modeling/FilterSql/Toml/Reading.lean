import FilterSql.Toml.Quoting
import FilterSql.Toml.Scalar
import FilterSql.Toml.Table

/-! Reading TOML documents. -/

namespace FilterSql.Toml

/-- Arrays, inline tables and dotted keys stay below this depth. -/
def nestLimit : Nat := 80

def isBareKeyChar (c : Char) : Bool :=
  c.isAlphanum || c == '_' || c == '-'

/-- A comment, from its `#` to the end of the line. -/
def skipComment (cs : List Char) : List Char :=
  match cs with
  | '#' :: rest => rest.dropWhile isPrintable
  | _ => cs

/-- The rest of a line that holds nothing more than a comment; the last line may lack its break. -/
def endOfLine? (cs : List Char) : Option (List Char) :=
  match skipComment (skipSpaces cs) with
  | [] => some []
  | rest => lineBreak? rest

/-- Spaces, line breaks and comments between the items of an array. -/
def skipFill (cs : List Char) : List Char :=
  match cs with
  | [] => []
  | '#' :: rest => skipFill (rest.dropWhile isPrintable)
  | '\r' :: '\n' :: rest => skipFill rest
  | c :: rest => if isSpace c || c == '\n' then skipFill rest else c :: rest
termination_by cs.length
decreasing_by
  · exact Nat.lt_succ_of_le (List.dropWhile_suffix isPrintable).length_le
  · simp only [List.length_cons]; omega
  · simp only [List.length_cons]; omega

/-- A bare or quoted part of a key. -/
def readKeyPart (cs : List Char) : Option (String × List Char) :=
  match cs with
  | '"' :: rest => readShortText '"' rest
  | '\'' :: rest => readShortText '\'' rest
  | _ =>
    let bare := cs.takeWhile isBareKeyChar
    if bare.isEmpty then none else some (String.ofList bare, cs.dropWhile isBareKeyChar)

/-- The parts of a key, with spaces around each. -/
def readKeyParts (cs : List Char) : Option (List String × List Char) :=
  match readKeyPart (skipSpaces cs) with
  | none => none
  | some (part, after) =>
    match skipSpaces after with
    | '.' :: rest =>
      if rest.length < cs.length then
        (readKeyParts rest).map fun (parts, after) => (part :: parts, after)
      else none
    | rest => some ([part], rest)
termination_by cs.length

def Key.ofParts? (parts : List String) : Option Key :=
  if parts.length < nestLimit then parts.getLast?.map fun last => ⟨parts.dropLast, last⟩ else none

def readKey (cs : List Char) : Option (Key × List Char) :=
  (readKeyParts cs).bind fun (parts, rest) => (Key.ofParts? parts).map fun key => (key, rest)

/-- The items of an array up to its closing bracket; a comma may follow the last of them. -/
def readItems (item : List Char → Option (Value × List Char)) (cs : List Char) :
    Option (List Value × List Char) :=
  match skipFill cs with
  | ']' :: rest => some ([], rest)
  | start =>
    match item start with
    | none => none
    | some (value, after) =>
      match skipFill after with
      | ']' :: rest => some ([value], rest)
      | ',' :: rest =>
        if rest.length < cs.length then
          (readItems item rest).map fun (values, after) => (value :: values, after)
        else none
      | _ => none
termination_by cs.length

/-- A key, an equals sign and a value. -/
def readPair (value : List Char → Option (Value × List Char)) (cs : List Char) :
    Option ((Key × Value) × List Char) := do
  let (key, rest) ← readKey cs
  match rest with
  | '=' :: rest => (value (skipSpaces rest)).map fun (v, after) => ((key, v), after)
  | _ => none

/-- The pairs of an inline table up to its closing brace, at least one and all on one line. -/
def readPairs (value : List Char → Option (Value × List Char)) (cs : List Char) :
    Option (List (Key × Value) × List Char) :=
  match readPair value cs with
  | none => none
  | some (pair, after) =>
    match skipSpaces after with
    | '\x7d' :: rest => some ([pair], rest)
    | ',' :: rest =>
      if rest.length < cs.length then
        (readPairs value rest).map fun (pairs, after) => (pair :: pairs, after)
      else none
    | _ => none
termination_by cs.length

def readInlineTable (value : List Char → Option (Value × List Char)) (cs : List Char) :
    Option (Value × List Char) :=
  match skipSpaces cs with
  | '\x7d' :: rest => some (.table .inline [], rest)
  | _ => do
    let (pairs, rest) ← readPairs value cs
    let entries ← Entries.ofPairs? pairs
    return (.table .inline entries, rest)

/-- A value with at most `depth` brackets and braces open at once. -/
def readValue (depth : Nat) (cs : List Char) : Option (Value × List Char) :=
  match cs, depth with
  | '"' :: rest, _ => (readText '"' rest).map fun (s, after) => (.text s, after)
  | '\'' :: rest, _ => (readText '\'' rest).map fun (s, after) => (.text s, after)
  | '[' :: rest, depth + 1 =>
    (readItems (readValue depth) rest).map fun (items, after) => (.array items, after)
  | '\x7b' :: rest, depth + 1 => readInlineTable (readValue depth) rest
  | _, _ => readWord cs

def readDocumentValue (cs : List Char) : Option (Value × List Char) :=
  readValue (nestLimit - 1) cs

/-- A header in single or double brackets, or an entry, without the end of its line. -/
def readStatement (cs : List Char) : Option (Statement × List Char) :=
  match cs with
  | '[' :: '[' :: rest => do
    match ← readKey rest with
    | (key, ']' :: ']' :: after) => return (.doubledHeader key, after)
    | _ => none
  | '[' :: rest => do
    match ← readKey rest with
    | (key, ']' :: after) => return (.header key, after)
    | _ => none
  | _ => (readPair readDocumentValue cs).map fun ((key, value), after) => (.entry key value, after)

def readStatements (cs : List Char) : Option (List Statement) :=
  if cs.isEmpty then some []
  else match endOfLine? cs with
    | some rest => if rest.length < cs.length then readStatements rest else none
    | none => do
      let (statement, after) ← readStatement (skipSpaces cs)
      let rest ← endOfLine? after
      if rest.length < cs.length then (readStatements rest).map (statement :: ·) else none
termination_by cs.length

/-- A byte order mark in front does not count. -/
def skipMark : List Char → List Char
  | '\ufeff' :: rest => rest
  | cs => cs

/-- The entries of a document, or nothing if it is malformed. -/
def ofText? (s : String) : Option Entries :=
  (readStatements (skipMark s.toList)).bind Document.ofStatements?

end FilterSql.Toml
