import FilterSql.Decimal.Nearest

/-! Decimal numerals as written, and the numbers they stand for. -/

namespace FilterSql

/-- The value of a run of decimal digits. -/
def digitsValue (ds : List Char) : Nat :=
  ds.foldl (fun n d => 10 * n + (d.toNat - '0'.toNat)) 0

/-- A numeral by its parts. Without a point or an exponent the last two are empty and zero. -/
structure Numeral where
  negative : Bool
  whole : List Char
  fraction : List Char
  exponent : Int
  deriving DecidableEq, Repr

namespace Numeral

def value (n : Numeral) : Binary64 :=
  Binary64.ofDecimal n.negative (digitsValue (n.whole ++ n.fraction)) (n.exponent - n.fraction.length)

def splitSign : List Char → Bool × List Char
  | '-' :: rest => (true, rest)
  | '+' :: rest => (false, rest)
  | cs => (false, cs)

def splitDigits (cs : List Char) : List Char × List Char :=
  (cs.takeWhile Char.isDigit, cs.dropWhile Char.isDigit)

def ofExponent? (cs : List Char) : Option Int :=
  let (negative, digits) := splitSign cs
  if digits.isEmpty || !digits.all Char.isDigit then none
  else if negative then some (-(digitsValue digits : Int)) else some (digitsValue digits)

/-- Reads digits around an optional point, one side of which may be missing, and an optional
exponent. -/
def ofUnsigned? (negative : Bool) (cs : List Char) : Option Numeral :=
  let (whole, rest) := splitDigits cs
  let (fraction, rest) := match rest with
    | '.' :: more => splitDigits more
    | _ => ([], rest)
  if whole.isEmpty && fraction.isEmpty then none
  else match rest with
    | [] => some ⟨negative, whole, fraction, 0⟩
    | e :: more =>
      if e == 'e' || e == 'E' then
        (ofExponent? more).map fun exponent => ⟨negative, whole, fraction, exponent⟩
      else none

end Numeral

/-- Reads a number in any of its spellings: a numeral with an optional sign, or a name for an infinity
or for what is no number. -/
def Binary64.ofText? (s : String) : Option Binary64 :=
  let (negative, rest) := Numeral.splitSign s.toList
  let name := String.ofList (rest.map Char.toLower)
  if name == "inf" || name == "infinity" then some (.infinity negative)
  else if name == "nan" then some .notNumber
  else (Numeral.ofUnsigned? negative rest).map Numeral.value

end FilterSql
