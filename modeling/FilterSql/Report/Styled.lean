/-! Lines of a report, in which pieces may be emphasised by terminal colours. -/

namespace FilterSql

inductive Style
  | bold
  | dim
  | green
  | yellow
  | cyan
  deriving DecidableEq, Repr

namespace Style

/-- The control sequence with the given parameter. -/
def control (parameter : List Char) : List Char :=
  '\x1b' :: '[' :: parameter ++ ['m']

def opening : Style → List Char
  | bold => control ['1']
  | dim => control ['2']
  | green => control ['3', '2']
  | yellow => control ['3', '3']
  | cyan => control ['3', '6']

/-- Colours give way to the colour before them; weights end all emphasis. -/
def closing : Style → List Char
  | bold | dim => control ['0']
  | green | yellow | cyan => control ['3', '9']

end Style

/-- A piece of text with its styles, the outermost first. -/
structure Piece where
  styles : List Style
  text : String
  deriving DecidableEq, Repr

namespace Piece

def plain (text : String) : Piece := ⟨[], text⟩

def wrap : List Style → List Char → List Char
  | [], text => text
  | style :: styles, text => style.opening ++ wrap styles text ++ style.closing

def write (coloured : Bool) (p : Piece) : List Char :=
  if coloured then wrap p.styles p.text.toList else p.text.toList

end Piece

abbrev Line := List Piece

namespace Line

def plain (text : String) : Line := [Piece.plain text]

def styled (styles : List Style) (text : String) : Line := [⟨styles, text⟩]

def blank : Line := []

def write (coloured : Bool) (l : Line) : List Char :=
  l.flatMap (Piece.write coloured) ++ ['\n']

end Line

/-- Fills a column with spaces on the right. -/
def padRight (width : Nat) (s : String) : String :=
  s ++ String.ofList (List.replicate (width - s.length) ' ')

abbrev Report := List Line

def Report.write (coloured : Bool) (r : Report) : String :=
  String.ofList (r.flatMap (Line.write coloured))

end FilterSql
