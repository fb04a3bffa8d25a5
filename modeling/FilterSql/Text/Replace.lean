/-! Replacing every occurrence of a text by another. -/

namespace FilterSql.Text

/-- Replaces the occurrences of `old`, which is not empty, from left to right without overlap. -/
def replaceChars (old new : List Char) (cs : List Char) : List Char :=
  match cs with
  | [] => []
  | c :: rest =>
    if old.isPrefixOf (c :: rest) then new ++ replaceChars old new (rest.drop (old.length - 1))
    else c :: replaceChars old new rest
termination_by cs.length
decreasing_by
  · simp only [List.length_drop, List.length_cons]; omega
  · exact Nat.lt_succ_self _

def replace (old new : String) (s : String) : String :=
  String.ofList (replaceChars old.toList new.toList s.toList)

end FilterSql.Text
