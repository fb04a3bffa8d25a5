import FilterSql.Decimal.Binary64

/-!
The binary number nearest to a decimal one, a tie going to the even neighbour. All arithmetic is exact.
-/

namespace FilterSql

/-- The quotient rounded to the nearest whole number, a half to the even one. -/
def roundHalfEven (n d : Nat) : Nat :=
  let q := n / d
  let r := n % d
  if 2 * r < d then q
  else if d < 2 * r then q + 1
  else if q % 2 = 0 then q else q + 1

namespace Binary64

/-- The quotient `n / d` in units of `2 ^ q`. -/
def inUnits (n d : Nat) (q : Int) : Nat × Nat :=
  (n <<< (-q).toNat, d <<< q.toNat)

/-- The exponent that leaves 53 bits before the point of `n / d`, or the least one there is. -/
def unitFor (n d : Nat) : Int :=
  let q : Int := (Nat.log2 n : Int) - (Nat.log2 d : Int) - 52
  let (a, b) := inUnits n d q
  max (if a / b < leastNormal then q - 1 else q) (-1074)

/-- The code nearest to `n / d`: a significand that rounds up to the next power of two carries into
the exponent by itself. -/
def codeOfRatio (n d : Nat) : Nat :=
  let q := unitFor n d
  let (a, b) := inUnits n d q
  min ((q + 1074).toNat * leastNormal + roundHalfEven a b) infinityCode

theorem codeOfRatio_le (n d : Nat) : codeOfRatio n d ≤ infinityCode :=
  Nat.min_le_right _ _

/-- The number nearest to the ratio. -/
def ofRatio (negative : Bool) (n d : Nat) : Binary64 :=
  ⟨negative, codeOfRatio n d, Nat.lt_of_le_of_lt (codeOfRatio_le n d) (by decide)⟩

/-- The number nearest to `digits * 10 ^ exponent`. Exponents far out of range are settled without
computing the power. -/
def ofDecimal (negative : Bool) (digits : Nat) (exponent : Int) : Binary64 :=
  let magnitude := (Nat.toDigits 10 digits).length + exponent
  if digits = 0 || magnitude < -330 then zero negative
  else if 310 < magnitude then infinity negative
  else ofRatio negative (digits * Nat.pow 10 exponent.toNat) (Nat.pow 10 (-exponent).toNat)

end Binary64

end FilterSql
