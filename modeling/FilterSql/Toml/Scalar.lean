import FilterSql.Calendar.Instant
import FilterSql.Text.Hex
import FilterSql.Toml.Value

/-! Booleans, numbers, dates and times of a TOML document: the values that are written as one word. -/

namespace FilterSql.Toml

namespace Scalar

/-- Digits, with a single `_` allowed between any two of them. -/
def ungroup? (isDigit : Char → Bool) : List Char → Option (List Char)
  | [] => none
  | [d] => if isDigit d then some [d] else none
  | d :: '_' :: rest => if isDigit d then (ungroup? isDigit rest).map (d :: ·) else none
  | d :: rest => if isDigit d then (ungroup? isDigit rest).map (d :: ·) else none

/-- The digits of a whole number, without zeros in front. -/
def wholeDigits? (cs : List Char) : Option (List Char) :=
  match ungroup? Char.isDigit cs with
  | some ('0' :: _ :: _) => none
  | other => other

def radixValue (radix : Nat) (digits : List Char) : Nat :=
  digits.foldl (fun n d => radix * n + (Text.hexDigitValue d).getD 0) 0

def isDigitOf (radix : Nat) (c : Char) : Bool :=
  match Text.hexDigitValue c with
  | some d => d < radix
  | none => false

/-- Integers have 64 signed bits. -/
def inRange? (n : Int) : Option Int :=
  if -0x8000000000000000 ≤ n && n < 0x8000000000000000 then some n else none

def inRadix? (radix : Nat) (cs : List Char) : Option Int :=
  (ungroup? (isDigitOf radix) cs).bind fun digits => inRange? (radixValue radix digits)

/-- Decimal with an optional sign, or hexadecimal, octal or binary without one. -/
def integer? : List Char → Option Int
  | '0' :: 'x' :: digits => inRadix? 16 digits
  | '0' :: 'o' :: digits => inRadix? 8 digits
  | '0' :: 'b' :: digits => inRadix? 2 digits
  | cs =>
    let (negative, digits) := Numeral.splitSign cs
    (wholeDigits? digits).bind fun digits =>
      inRange? (if negative then -(digitsValue digits : Int) else digitsValue digits)

def isGrouped (c : Char) : Bool :=
  c.isDigit || c == '_'

def exponent? : List Char → Option Int
  | [] => some 0
  | e :: cs =>
    let (negative, digits) := Numeral.splitSign cs
    if e == 'e' || e == 'E' then
      (ungroup? Char.isDigit digits).map fun digits =>
        if negative then -(digitsValue digits : Int) else digitsValue digits
    else none

/-- A numeral with a point or an exponent; digits stand on both sides of the point. -/
def numeral? (cs : List Char) : Option Numeral := do
  let (negative, cs) := Numeral.splitSign cs
  let whole ← wholeDigits? (cs.takeWhile isGrouped)
  match cs.dropWhile isGrouped with
  | '.' :: cs =>
    let fraction ← ungroup? Char.isDigit (cs.takeWhile isGrouped)
    let exponent ← exponent? (cs.dropWhile isGrouped)
    return ⟨negative, whole, fraction, exponent⟩
  | [] => none
  | cs => (exponent? cs).map fun exponent => ⟨negative, whole, [], exponent⟩

/-- A positive numeral that is too large is refused; a negative one becomes an infinity. -/
def decimal? (cs : List Char) : Option Binary64 :=
  let (negative, name) := Numeral.splitSign cs
  if name == ['i', 'n', 'f'] then some (.infinity negative)
  else if name == ['n', 'a', 'n'] then some .notNumber
  else (numeral? cs).bind fun n =>
    if n.value == .infinity false then none else some n.value

def writeDate (d : Date) : List Char :=
  Instant.padded 4 d.year.toNat ++ '-' :: Instant.padded 2 d.month ++ '-' :: Instant.padded 2 d.day

/-- Zeros at the end of the fraction are left out. -/
def writeFraction (nano : Nat) : List Char :=
  if nano = 0 then []
  else '.' :: ((Instant.padded 9 nano).reverse.dropWhile (· == '0')).reverse

/-- A time of day in its normal spelling, and what follows it. -/
def takeTime (cs : List Char) : Option (List Char × List Char) := do
  let (minute, second, cs) ← Instant.takeClock cs
  let (nano, cs) ← Instant.takeFraction cs
  let clock := Instant.padded 2 (minute / 60) ++ ':' :: Instant.padded 2 (minute % 60) ++
    ':' :: Instant.padded 2 second
  return (clock ++ writeFraction nano, cs)

def writeOffset (east : Int) : List Char :=
  (if east < 0 then '-' else '+') :: Instant.padded 2 (east.natAbs / 60) ++
    ':' :: Instant.padded 2 (east.natAbs % 60)

/-- An optional offset in its normal spelling, at the end of the word. -/
def offset? : List Char → Option (List Char)
  | [] => some []
  | cs => (Instant.takeOffset cs).bind fun (east, rest) =>
    if !rest.isEmpty then none
    else if cs.length = 1 then some ['Z'] else some (writeOffset east)

/-- A time of day without a date has no offset. -/
def time? (cs : List Char) : Option (List Char) :=
  (takeTime cs).bind fun (time, rest) => if rest.isEmpty then some time else none

def isDate (cs : List Char) : Bool :=
  match Instant.takeDate cs with
  | some (_, rest) => rest.isEmpty
  | none => false

def dateAndTime? (cs : List Char) : Option (List Char) := do
  let (date, cs) ← Instant.takeDate cs
  if cs.isEmpty then return writeDate date
  let (time, cs) ← takeTime (← Instant.skipSeparator cs)
  let offset ← offset? cs
  return writeDate date ++ 'T' :: time ++ offset

def moment? (cs : List Char) : Option String :=
  ((dateAndTime? cs).orElse fun _ => time? cs).map String.ofList

def ofWord? (word : List Char) : Option Value :=
  if word == ['t', 'r', 'u', 'e'] then some (.boolean true)
  else if word == ['f', 'a', 'l', 's', 'e'] then some (.boolean false)
  else ((moment? word).map Value.moment).orElse fun _ =>
    ((decimal? word).map Value.decimal).orElse fun _ => (integer? word).map Value.integer

end Scalar

def isWordChar (c : Char) : Bool :=
  c.isAlphanum || c == '_' || c == '+' || c == '-' || c == '.' || c == ':'

/-- Reads a value that is one word. A time may follow a date after a single space. -/
def readWord (cs : List Char) : Option (Value × List Char) :=
  let word := cs.takeWhile isWordChar
  match cs.dropWhile isWordChar with
  | ' ' :: d :: rest =>
    if d.isDigit && Scalar.isDate word then
      (Scalar.ofWord? (word ++ ' ' :: (d :: rest).takeWhile isWordChar)).map fun v =>
        (v, (d :: rest).dropWhile isWordChar)
    else (Scalar.ofWord? word).map fun v => (v, ' ' :: d :: rest)
  | rest => (Scalar.ofWord? word).map fun v => (v, rest)

end FilterSql.Toml
