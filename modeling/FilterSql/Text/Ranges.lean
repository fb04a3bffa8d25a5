import FilterSql.Text.Hex

/-! Sets of characters given by inclusive ranges of code points. -/

namespace FilterSql.Text

/-- Inclusive ranges of code points. -/
abbrev Ranges := List (Nat × Nat)

namespace Ranges

def contains (ranges : Ranges) (c : Char) : Bool :=
  ranges.any fun r => r.1 ≤ c.toNat && c.toNat ≤ r.2

/-- A range written `first-last`, or a single code point. -/
def rangeOfHex (word : String) : Nat × Nat :=
  match word.splitOn "-" with
  | [first, last] => (hexValue first.toList, hexValue last.toList)
  | _ => (hexValue word.toList, hexValue word.toList)

/-- Ranges written in hexadecimal, with spaces between them. -/
def ofHex (lines : List String) : Ranges :=
  lines.flatMap fun line => (line.splitOn " ").map rangeOfHex

end Ranges

end FilterSql.Text
