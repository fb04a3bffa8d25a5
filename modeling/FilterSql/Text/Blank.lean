import FilterSql.Text.Ranges

/-! Blank characters, and texts without the blanks at their ends. -/

namespace FilterSql.Text

/-- The code points with the property White_Space. -/
def blanks : Ranges :=
  [(0x9, 0xd), (0x20, 0x20), (0x85, 0x85), (0xa0, 0xa0), (0x1680, 0x1680), (0x2000, 0x200a),
   (0x2028, 0x2029), (0x202f, 0x202f), (0x205f, 0x205f), (0x3000, 0x3000)]

def isBlank (c : Char) : Bool :=
  blanks.contains c

/-- A text is blank when it holds nothing but blanks, the empty text included. -/
def allBlank (s : String) : Bool :=
  s.toList.all isBlank

def trimBlanks (cs : List Char) : List Char :=
  ((cs.dropWhile isBlank).reverse.dropWhile isBlank).reverse

def trim (s : String) : String :=
  String.ofList (trimBlanks s.toList)

end FilterSql.Text
