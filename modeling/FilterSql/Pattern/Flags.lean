import FilterSql.Pattern.Node

/-! The modes of a pattern, which may change within it, and what its elements mean under them. -/

namespace FilterSql.Pattern

structure Flags where
  ignoreCase : Bool := false
  multiLine : Bool := false
  dotMatchesAll : Bool := false
  swapGreed : Bool := false
  /-- Without it, classes hold ASCII characters only. -/
  unicode : Bool := true
  crlf : Bool := false
  /-- Blanks and comments in the pattern are skipped. -/
  verbose : Bool := false
  deriving DecidableEq, Repr

namespace Flags

/-- Switches the flag that a letter stands for. -/
def set? (f : Flags) (letter : Char) (on : Bool) : Option Flags :=
  match letter with
  | 'i' => some { f with ignoreCase := on }
  | 'm' => some { f with multiLine := on }
  | 's' => some { f with dotMatchesAll := on }
  | 'U' => some { f with swapGreed := on }
  | 'u' => some { f with unicode := on }
  | 'R' => some { f with crlf := on }
  | 'x' => some { f with verbose := on }
  | _ => none

def fold (f : Flags) (s : CharSet) : CharSet :=
  if !f.ignoreCase then s
  else if f.unicode then .folded s else .asciiFolded s

/-- A set without its complement's reading; the complement of an ASCII set would not be one. -/
def negate? (f : Flags) (negated : Bool) (s : CharSet) : Option CharSet :=
  if !negated then some s
  else if f.unicode then some (.complement s) else none

def foldAndNegate? (f : Flags) (negated : Bool) (s : CharSet) : Option CharSet :=
  f.negate? negated (f.fold s)

/-- Letters outside ASCII keep their case when classes hold ASCII characters only. -/
def literal (f : Flags) (c : Char) : Node :=
  .chars (f.fold (.single c))

/-- The set of any character, or of any but the line ends. -/
def dot? (f : Flags) : Option Node :=
  if !f.unicode then none
  else if f.dotMatchesAll then some (.chars (.property .any))
  else if f.crlf then some (.chars (.complement (.union (.single '\r') (.single '\n'))))
  else some (.chars (.complement (.single '\n')))

def lineStart (f : Flags) : Node :=
  .look (if !f.multiLine then .textStart else if f.crlf then .crlfLineStart else .lineStart)

def lineEnd (f : Flags) : Node :=
  .look (if !f.multiLine then .textEnd else if f.crlf then .crlfLineEnd else .lineEnd)

/-- The sets that a small letter stands for, and their complements for the capital. -/
def shorthand? (f : Flags) (letter : Char) : Option CharSet :=
  match letter with
  | 'd' => some (if f.unicode then .property .digit else .asciiDigit)
  | 's' => some (if f.unicode then .property .whiteSpace else .asciiSpace)
  | 'w' => some (if f.unicode then .property .word else .asciiWord)
  | _ => none

end Flags

end FilterSql.Pattern
