import FilterSql.Text.Hex

/-!
Quoted text in a TOML document. Basic texts stand between double quotes and have escapes, literal ones
stand between single quotes and have none; three marks enclose a text that may run over several lines.
-/

namespace FilterSql.Toml

def isSpace (c : Char) : Bool :=
  c == ' ' || c == '\t'

def skipSpaces (cs : List Char) : List Char :=
  cs.dropWhile isSpace

/-- What follows a line feed, with or without a carriage return before it. -/
def lineBreak? : List Char → Option (List Char)
  | '\n' :: rest => some rest
  | '\r' :: '\n' :: rest => some rest
  | _ => none

/-- Blank lines and spaces. -/
def skipLines : List Char → List Char
  | '\r' :: '\n' :: rest => skipLines rest
  | c :: rest => if isSpace c || c == '\n' then skipLines rest else c :: rest
  | [] => []

/-- Controls other than the tab have to be escaped, and cannot stand in comments. -/
def isPrintable (c : Char) : Bool :=
  c == '\t' || (' ' ≤ c && c != '\x7f')

structure Quoting where
  mark : Char
  long : Bool
  deriving DecidableEq, Repr

namespace Quoting

def hasEscapes (q : Quoting) : Bool :=
  q.mark == '"'

/-- A character by its code point in exactly `n` hexadecimal digits. -/
def codePoint? (n : Nat) (cs : List Char) : Option (Char × List Char) :=
  let digits := cs.take n
  if digits.length = n && digits.all Text.isHexDigit then
    (Text.charOfCode? (Text.hexValue digits)).map fun c => (c, cs.drop n)
  else none

/-- The character that the text after a backslash stands for. -/
def escape? : List Char → Option (Char × List Char)
  | [] => none
  | c :: rest =>
    if c == 'b' then some ('\x08', rest)
    else if c == 't' then some ('\t', rest)
    else if c == 'n' then some ('\n', rest)
    else if c == 'f' then some ('\x0c', rest)
    else if c == 'r' then some ('\r', rest)
    else if c == '"' || c == '\\' then some (c, rest)
    else if c == 'u' then codePoint? 4 rest
    else if c == 'U' then codePoint? 8 rest
    else none

/-- A backslash at the end of a line joins the line to the next one that is not blank. -/
def joinedLine? (cs : List Char) : Option (List Char) :=
  (lineBreak? (skipSpaces cs)).map skipLines

/-- The length of the run of marks at the beginning. -/
def runLength (q : Quoting) (cs : List Char) : Nat :=
  (cs.takeWhile (· == q.mark)).length

/-- What one step of reading a quoted text comes upon. -/
inductive Piece
  | char (c : Char) (rest : List Char)
  | nothing (rest : List Char)
  /-- The closing marks, with those marks before them that belong to the text. -/
  | closing (marks : Nat) (rest : List Char)

/-- Up to two marks may stand right before the three that close a long text. -/
def marks? (q : Quoting) (c : Char) (rest : List Char) : Option Piece :=
  let run := q.runLength (c :: rest)
  if !q.long then some (.closing 0 rest)
  else if run < 3 then some (.char c rest)
  else if run ≤ 5 then some (.closing (run - 3) ((c :: rest).drop run))
  else none

def backslash? (q : Quoting) (rest : List Char) : Option Piece :=
  match q.long, joinedLine? rest with
  | true, some next => some (.nothing next)
  | _, _ => (escape? rest).map fun (c, next) => .char c next

def piece? (q : Quoting) : List Char → Option Piece
  | [] => none
  | c :: rest =>
    if c == q.mark then q.marks? c rest
    else if c == '\\' && q.hasEscapes then q.backslash? rest
    else match q.long, lineBreak? (c :: rest) with
      | true, some next => some (.char '\n' next)
      | _, _ => if isPrintable c then some (.char c rest) else none

/-- Reads up to and past the closing marks. -/
def read (q : Quoting) (cs : List Char) : Option (List Char × List Char) :=
  match q.piece? cs with
  | none => none
  | some (.closing n rest) => some (List.replicate n q.mark, rest)
  | some (.nothing rest) => if rest.length < cs.length then q.read rest else none
  | some (.char c rest) =>
    if rest.length < cs.length then (q.read rest).map fun (text, after) => (c :: text, after) else none
termination_by cs.length

end Quoting

/-- A quoted text on one line, given its opening mark and what follows. -/
def readShortText (mark : Char) (rest : List Char) : Option (String × List Char) :=
  (Quoting.read ⟨mark, false⟩ rest).map fun (text, after) => (String.ofList text, after)

/-- A quoted text of either length; a line break right after three opening marks does not count. -/
def readText (mark : Char) (rest : List Char) : Option (String × List Char) :=
  match rest with
  | a :: b :: more =>
    if a == mark && b == mark then
      (Quoting.read ⟨mark, true⟩ ((lineBreak? more).getD more)).map fun (text, after) =>
        (String.ofList text, after)
    else readShortText mark rest
  | _ => readShortText mark rest

end FilterSql.Toml
