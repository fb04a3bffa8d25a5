import FilterSql.Filter.Literal
import FilterSql.Filter.Operator

/-! The words of a filter, and what can be wrong with a piece of text that should be one. -/

namespace FilterSql

inductive Token
  | identifier (name : String)
  | operator (op : Operator)
  | literal (value : Literal)
  | connective (c : Connective)
  | opening
  | closing
  deriving DecidableEq, Repr

namespace Token

/-- A token as messages show it. -/
def shown : Token → String
  | identifier name => "'" ++ name ++ "'"
  | operator op => "'" ++ op.keyword ++ "'"
  | literal value => value.shown
  | connective c => "'" ++ c.keyword ++ "'"
  | opening => "'('"
  | closing => "')'"

/-- The reserved words, in any case; every other word is an identifier. -/
def ofWord (word : String) : Token :=
  match Operator.ofWord? word with
  | some op => operator op
  | none =>
    let lower := word.toLower
    if lower == "and" then connective .and
    else if lower == "or" then connective .or
    else if lower == "true" then literal (.boolean true)
    else if lower == "false" then literal (.boolean false)
    else identifier word

end Token

/-- Something found in a filter text, with the byte offset at which it starts. -/
structure Placed (α : Type) where
  position : Nat
  value : α
  deriving DecidableEq, Repr

inductive Mistake
  | unexpectedCharacter (c : Char)
  | unterminatedText
  | invalidNumber (spelling : String)
  deriving DecidableEq, Repr

def Mistake.messageAt (position : Nat) : Mistake → String
  | unexpectedCharacter c =>
    "unexpected character '" ++ c.toString ++ "' at position " ++ Number.integerText position
  | unterminatedText => "unterminated string starting at position " ++ Number.integerText position
  | invalidNumber spelling =>
    "invalid number '" ++ spelling ++ "' at position " ++ Number.integerText position

def Placed.message (m : Placed Mistake) : String :=
  m.value.messageAt m.position

end FilterSql
