import FilterSql.Pattern.Replace
import FilterSql.Text.Replace

/-! Rules that rename attributes to columns. -/

namespace FilterSql

/-- Every match of the pattern becomes the replacement, which is taken as it is. -/
structure Rule where
  source : String
  pattern : Pattern.Node
  replacement : String
  deriving DecidableEq, Repr

namespace Rule

def ofPair? (source replacement : String) : Option Rule :=
  (Pattern.Node.ofText? source).map fun pattern => ⟨source, pattern, replacement⟩

def apply (r : Rule) (s : String) : String :=
  String.ofList (r.pattern.replaceAll r.replacement.toList none false s.toList)

/-- Puts the pattern without its backslashes where the replacement stands. This undoes the rule when
the pattern is a text with its special characters escaped. -/
def undo (r : Rule) (s : String) : String :=
  if r.replacement.isEmpty then s
  else Text.replace r.replacement (String.ofList (r.source.toList.filter (· != '\\'))) s

end Rule

/-- Rules in the order in which they apply, each to what the one before it leaves. -/
structure Mapping where
  rules : List Rule
  deriving DecidableEq, Repr

/-- The text of a rule that is no pattern. -/
structure InvalidPattern where
  source : String
  deriving DecidableEq, Repr

/-- The beginning of the report; what is wrong with the pattern would follow. -/
def InvalidPattern.message (e : InvalidPattern) : String :=
  "invalid attribute pattern '" ++ e.source ++ "': regex parse error"

namespace Mapping

def ofPairs : List (String × String) → Except InvalidPattern Mapping
  | [] => .ok ⟨[]⟩
  | (source, replacement) :: rest =>
    match Rule.ofPair? source replacement with
    | none => .error ⟨source⟩
    | some rule => (ofPairs rest).map fun m => ⟨rule :: m.rules⟩

def apply (m : Mapping) (path : String) : String :=
  m.rules.foldl (fun s rule => rule.apply s) path

/-- The attribute that a column is renamed from. -/
def undo (m : Mapping) (column : String) : String :=
  m.rules.reverse.foldl (fun s rule => rule.undo s) column

end Mapping

end FilterSql
