/-! Names: attribute paths and columns have the same shape, ASCII letters, digits, `_` and dots. -/

namespace FilterSql.Text

def isNameStart (c : Char) : Bool :=
  c.isAlpha || c == '_'

def isNameChar (c : Char) : Bool :=
  c.isAlphanum || c == '_' || c == '.'

def isNameChars : List Char → Bool
  | [] => false
  | c :: rest => isNameStart c && rest.all isNameChar

def isName (s : String) : Bool :=
  isNameChars s.toList

end FilterSql.Text
