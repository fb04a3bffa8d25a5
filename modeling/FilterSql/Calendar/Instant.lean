import FilterSql.Calendar.Date
import FilterSql.Decimal.Numeral

/-!
Instants in universal time, read from and written as RFC 3339 text. Any minute may end in a leap
second, and fractions are kept to nine digits.
-/

namespace FilterSql

structure Instant where
  date : Date
  /-- Minute of the day, below 1440. -/
  minute : Nat
  /-- Second of the minute; 60 is a leap second. -/
  second : Nat
  nano : Nat
  deriving DecidableEq, Repr

namespace Instant

/-- A number of exactly `n` digits and what follows it. -/
def takeNumber (n : Nat) (cs : List Char) : Option (Nat × List Char) :=
  let digits := cs.take n
  if digits.length = n && digits.all Char.isDigit then some (digitsValue digits, cs.drop n) else none

def skip (c : Char) : List Char → Option (List Char)
  | d :: rest => if d == c then some rest else none
  | [] => none

def takeDate (cs : List Char) : Option (Date × List Char) := do
  let (year, cs) ← takeNumber 4 cs
  let cs ← skip '-' cs
  let (month, cs) ← takeNumber 2 cs
  let cs ← skip '-' cs
  let (day, cs) ← takeNumber 2 cs
  let date : Date := ⟨year, month, day⟩
  if date.isValid then some (date, cs) else none

/-- Date and time stand apart by a `T` in either case or by a space. -/
def skipSeparator : List Char → Option (List Char)
  | c :: rest => if c == 'T' || c == 't' || c == ' ' then some rest else none
  | [] => none

/-- Minute of the day and second. -/
def takeClock (cs : List Char) : Option (Nat × Nat × List Char) := do
  let (hour, cs) ← takeNumber 2 cs
  let cs ← skip ':' cs
  let (minute, cs) ← takeNumber 2 cs
  let cs ← skip ':' cs
  let (second, cs) ← takeNumber 2 cs
  if hour ≤ 23 && minute ≤ 59 && second ≤ 60 then some (hour * 60 + minute, second, cs) else none

/-- Nanoseconds of an optional fraction; digits after the ninth are dropped. -/
def takeFraction : List Char → Option (Nat × List Char)
  | '.' :: cs =>
    let (digits, rest) := Numeral.splitDigits cs
    let kept := digits.take 9
    if digits.isEmpty then none
    else some (digitsValue kept * Nat.pow 10 (9 - kept.length), rest)
  | cs => some (0, cs)

/-- Signed minutes east of universal time. The minus sign may be the hyphen or U+2212. -/
def takeOffset : List Char → Option (Int × List Char)
  | [] => none
  | c :: cs =>
    if c == 'Z' || c == 'z' then some (0, cs)
    else if c == '+' || c == '-' || c == '−' then do
      let (hours, cs) ← takeNumber 2 cs
      let cs ← skip ':' cs
      let (minutes, cs) ← takeNumber 2 cs
      if hours ≤ 23 && minutes ≤ 59 then
        let east : Int := hours * 60 + minutes
        some (if c == '+' then east else -east, cs)
      else none
    else none

/-- The instant at which a clock `east` minutes ahead shows the given date and minute. -/
def ofLocal (date : Date) (minute : Nat) (east : Int) (second nano : Nat) : Instant :=
  let m : Int := minute - east
  if m < 0 then ⟨date.previous, (m + 1440).toNat, second, nano⟩
  else if 1440 ≤ m then ⟨date.next, (m - 1440).toNat, second, nano⟩
  else ⟨date, m.toNat, second, nano⟩

def ofChars? (cs : List Char) : Option Instant := do
  let (date, cs) ← takeDate cs
  let cs ← skipSeparator cs
  let (minute, second, cs) ← takeClock cs
  let (nano, cs) ← takeFraction cs
  let (east, cs) ← takeOffset cs
  if cs.isEmpty then some (ofLocal date minute east second nano) else none

def ofText? (s : String) : Option Instant :=
  ofChars? s.toList

/-- At least `width` digits, zeros in front. -/
def padded (width n : Nat) : List Char :=
  let digits := Nat.toDigits 10 n
  List.replicate (width - digits.length) '0' ++ digits

/-- Years of four digits stand bare, all others carry a sign. -/
def writeYear (year : Int) : List Char :=
  if 0 ≤ year && year ≤ 9999 then padded 4 year.toNat
  else (if year < 0 then '-' else '+') :: padded 4 year.natAbs

/-- The fraction in thousandths, millionths or billionths, the coarsest that is exact. -/
def writeFraction (nano : Nat) : List Char :=
  if nano = 0 then []
  else if nano % 1000000 = 0 then '.' :: padded 3 (nano / 1000000)
  else if nano % 1000 = 0 then '.' :: padded 6 (nano / 1000)
  else '.' :: padded 9 nano

def toChars (i : Instant) : List Char :=
  writeYear i.date.year ++ '-' :: padded 2 i.date.month ++ '-' :: padded 2 i.date.day ++
    'T' :: padded 2 (i.minute / 60) ++ ':' :: padded 2 (i.minute % 60) ++ ':' :: padded 2 i.second ++
    writeFraction i.nano ++ ['Z']

def text (i : Instant) : String :=
  String.ofList i.toChars

end Instant

end FilterSql
