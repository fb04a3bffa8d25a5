/-! Words that differ by a single inserted, removed or replaced character. -/

namespace FilterSql.Text

def isOneEdit : List Char → List Char → Bool
  | [], [_] => true
  | [_], [] => true
  | a :: as, b :: bs =>
    if a == b then isOneEdit as bs
    else as == bs || a :: as == bs || as == b :: bs
  | _, _ => false

end FilterSql.Text
