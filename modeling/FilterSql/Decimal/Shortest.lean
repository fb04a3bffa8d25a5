import FilterSql.Decimal.Binary64

/-!
The fewest decimal digits that still read back as a given binary number.

Every real between the midpoints to the two neighbours rounds to the number. On each decimal grid only
the two points around the number can be nearest, so the search goes from coarse grids to fine ones and
stops at the first that has a point in the interval.
-/

namespace FilterSql

/-- The number `digits * 10 ^ exponent`. -/
structure Scaled where
  digits : Nat
  exponent : Int
  deriving DecidableEq, Repr

/-- Which of two equally near decimals is written. -/
inductive Tie
  | up
  | even
  deriving DecidableEq, Repr

namespace Binary64

/-- The number and its rounding interval, as multiples of `1 / unit`. The ends belong to the interval
when the significand is even. -/
structure Interval where
  low : Nat
  value : Nat
  high : Nat
  unit : Nat
  closed : Bool
  deriving Repr

def interval (x : Binary64) : Interval :=
  let m := x.significand
  let q := x.exponent
  let scale := 1 <<< (q - 2).toNat
  let below := if m = leastNormal && -1074 < q then 1 else 2
  { low := (4 * m - below) * scale
    value := 4 * m * scale
    high := (4 * m + 2) * scale
    unit := 1 <<< (2 - q).toNat
    closed := m % 2 == 0 }

/-- The interval with a grid of step `10 ^ g` turned into the whole numbers. -/
def Interval.onGrid (i : Interval) (g : Int) : Interval :=
  let up := Nat.pow 10 (-g).toNat
  { low := i.low * up, value := i.value * up, high := i.high * up
    unit := i.unit * Nat.pow 10 g.toNat, closed := i.closed }

def Interval.holds (i : Interval) (c : Nat) : Bool :=
  let v := c * i.unit
  if i.closed then i.low ≤ v && v ≤ i.high else i.low < v && v < i.high

/-- The whole number of the interval nearest to its value. -/
def Interval.nearest? (i : Interval) (tie : Tie) : Option Nat :=
  let c := i.value / i.unit
  let r := i.value % i.unit
  match i.holds c, i.holds (c + 1) with
  | false, false => none
  | true, false => some c
  | false, true => some (c + 1)
  | true, true =>
    if 2 * r < i.unit then some c
    else if i.unit < 2 * r then some (c + 1)
    else match tie with
      | .up => some (c + 1)
      | .even => if c % 2 = 0 then some c else some (c + 1)

/-- A grid too coarse for the number: its step exceeds twice the value. -/
def coarsestGrid (x : Binary64) : Int :=
  ((Nat.log2 x.significand : Int) + 1 + x.exponent) * 30103 / 100000 + 2

/-- The shortest decimal of a finite number other than zero. -/
def shortest (tie : Tie) (x : Binary64) : Scaled :=
  let grids := (List.range 24).map fun (k : Nat) => x.coarsestGrid - (k : Int)
  let found := grids.findSome? fun g =>
    ((x.interval.onGrid g).nearest? tie).map fun c => (⟨c, g⟩ : Scaled)
  found.getD ⟨0, 0⟩

end Binary64

end FilterSql
