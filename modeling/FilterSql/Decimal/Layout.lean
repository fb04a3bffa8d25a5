import FilterSql.Decimal.Shortest

/-! How a binary number is written: where positional notation ends, and what a whole number keeps. -/

namespace FilterSql

/-- The conventions of one way to write numbers. -/
structure Layout where
  /-- Whether a number whose leading digit stands for `10 ^ e` is written without an exponent. -/
  positional : Int → Bool
  /-- Whether a positional whole number ends in `.0`. -/
  keepsPoint : Bool
  tie : Tie

namespace Layout

/-- Messages and reports never use an exponent. -/
def plain : Layout :=
  { positional := fun _ => true, keepsPoint := false, tie := .up }

/-- JSON uses an exponent from `10 ^ 16` on and below `10 ^ -5`. -/
def json : Layout :=
  { positional := fun e => -5 ≤ e && e ≤ 15, keepsPoint := true, tie := .even }

def zeros (n : Nat) : List Char :=
  List.replicate n '0'

/-- The digits without exponent; `point` of them stand before the decimal point. -/
def writePositional (l : Layout) (digits : List Char) (point : Int) : List Char :=
  let n := digits.length
  if point ≤ 0 then '0' :: '.' :: zeros (-point).toNat ++ digits
  else if n ≤ point.toNat then
    digits ++ zeros (point.toNat - n) ++ (if l.keepsPoint then ['.', '0'] else [])
  else digits.take point.toNat ++ '.' :: digits.drop point.toNat

def writeScientific (digits : List Char) (exponent : Int) : List Char :=
  let fraction := match digits.drop 1 with
    | [] => []
    | rest => '.' :: rest
  let sign := if exponent < 0 then '-' else '+'
  digits.take 1 ++ fraction ++ 'e' :: sign :: Nat.toDigits 10 exponent.natAbs

def magnitude (l : Layout) (x : Binary64) : List Char :=
  if x.code.val = 0 then
    if l.keepsPoint then ['0', '.', '0'] else ['0']
  else
    let s := x.shortest l.tie
    let digits := Nat.toDigits 10 s.digits
    let point := (digits.length : Int) + s.exponent
    if l.positional (point - 1) then l.writePositional digits point
    else writeScientific digits (point - 1)

/-- The text of any number, with names for what is not finite. -/
def write (l : Layout) (x : Binary64) : String :=
  let sign := if x.negative then ['-'] else []
  if x.isFinite then String.ofList (sign ++ l.magnitude x)
  else if x.isInfinite then String.ofList (sign ++ ['i', 'n', 'f'])
  else "NaN"

end Layout

end FilterSql
