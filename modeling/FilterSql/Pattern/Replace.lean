import FilterSql.Pattern.Reading

/-! Replacing every match of a pattern by a text. -/

namespace FilterSql.Pattern

namespace Node

/-- Replaces the matches from left to right. A match may be empty, but not where another one has just
ended. -/
def replaceAll (n : Node) (replacement : List Char) (before : Option Char) (afterMatch : Bool)
    (cs : List Char) : List Char :=
  match n.matchHere before cs with
  | some rest =>
    if rest.length < cs.length then
      replacement ++ replaceAll n replacement (cs.take (cs.length - rest.length)).getLast? true rest
    else
      let replaced := if afterMatch then [] else replacement
      match cs with
      | [] => replaced
      | c :: cs => replaced ++ c :: replaceAll n replacement (some c) false cs
  | none =>
    match cs with
    | [] => []
    | c :: cs => c :: replaceAll n replacement (some c) false cs
termination_by cs.length

end Node

end FilterSql.Pattern
