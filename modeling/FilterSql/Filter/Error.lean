import FilterSql.Column
import FilterSql.Filter.Token
import FilterSql.Text.OneEdit

/-! Everything that keeps a filter or a sort key from becoming a query. -/

namespace FilterSql

/-- The deepest nesting of parentheses. -/
def maxDepth : Nat := 64

/-- The most connectives in one filter. -/
def maxConnectives : Nat := 256

inductive FilterError
  | empty
  | lexical (mistakes : List (Placed Mistake))
  | unexpectedToken (token : Placed Token)
  | unexpectedEnd
  | unclosedGroup (position : Nat)
  | unknownOperator (word : String) (position : Nat)
  | missingValue (op : Operator) (position : Nat)
  | tooDeep (position : Nat)
  | tooManyConnectives (position : Nat)
  /-- The attribute's column is not among the allowed ones. -/
  | unknownAttribute (path : String)
  /-- The attribute was renamed to something that is no column name. -/
  | invalidColumn (path column : String)
  | invalidSortKey (key : String)
  /-- The literal does not fit the kind of the column. -/
  | mismatch (column : Column) (value : Literal)
  | unsupported (op : Operator) (column : Column)
  deriving DecidableEq, Repr

/-- The stage that refuses the input. -/
inductive Stage
  | tokens
  | phrase
  | resolution
  | rendering
  deriving DecidableEq, Repr

namespace FilterError

def stage : FilterError → Stage
  | lexical _ => .tokens
  | empty | unexpectedToken _ | unexpectedEnd | unclosedGroup _ | unknownOperator _ _
  | missingValue _ _ | tooDeep _ | tooManyConnectives _ => .phrase
  | unknownAttribute _ | invalidColumn _ _ | invalidSortKey _ => .resolution
  | mismatch _ _ | unsupported _ _ => .rendering

/-- The operator that a word misses by one letter. -/
def suggestion? (word : String) : Option Operator :=
  Operator.all.find? fun op => Text.isOneEdit word.toLower.toList op.keyword.toList

def suggestionText (word : String) : String :=
  match suggestion? word with
  | some op => " (did you mean '" ++ op.keyword ++ "'?)"
  | none => ""

/-- Mistakes shown one by one before the rest are only counted. -/
def shownMistakes : Nat := 10

def mistakesText (mistakes : List (Placed Mistake)) : String :=
  let shown := "; ".intercalate ((mistakes.take shownMistakes).map Placed.message)
  if shownMistakes < mistakes.length then
    shown ++ "; and " ++ Number.integerText (mistakes.length - shownMistakes : Nat) ++ " more"
  else shown

def atPosition (position : Nat) : String :=
  " at position " ++ Number.integerText position

def message : FilterError → String
  | empty => "filter expression is empty"
  | lexical mistakes => mistakesText mistakes
  | unexpectedToken token => "unexpected token " ++ token.value.shown ++ atPosition token.position
  | unexpectedEnd => "unexpected end of expression"
  | unclosedGroup position => "unclosed parenthesis opened" ++ atPosition position
  | unknownOperator word position =>
    "unknown operator '" ++ word ++ "'" ++ atPosition position ++ suggestionText word
  | missingValue op position =>
    "operator '" ++ op.keyword ++ "'" ++ atPosition position ++ " requires a value"
  | tooDeep position =>
    "parentheses nested deeper than " ++ Number.integerText maxDepth ++ " levels" ++ atPosition position
  | tooManyConnectives position =>
    "filter has more than " ++ Number.integerText maxConnectives ++
      " and/or connectives (limit exceeded" ++ atPosition position ++ ")"
  | unknownAttribute path => "unknown attribute: " ++ path
  | invalidColumn path column =>
    "attribute '" ++ path ++ "' maps to invalid column '" ++ column ++ "'"
  | invalidSortKey key => "invalid sort attribute: " ++ key
  | mismatch column value =>
    "cannot compare " ++ column.name ++ " with " ++ value.shown ++ ": expected " ++
      column.kind.expectation
  | unsupported op column =>
    "operator '" ++ op.keyword ++ "' is not supported for " ++ column.name

end FilterError

end FilterSql
