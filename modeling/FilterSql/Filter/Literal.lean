import FilterSql.Calendar.Instant
import FilterSql.Decimal.Layout
import FilterSql.Text.Quoted

/-! The values that a filter compares with. -/

namespace FilterSql

/-- A number is whole and exact within 64 signed bits, and a binary fraction otherwise. -/
inductive Number
  | integer (n : Int)
  | decimal (x : Binary64)
  deriving DecidableEq, Repr

namespace Number

def integerText (n : Int) : String :=
  let digits := Nat.toDigits 10 n.natAbs
  String.ofList (if n < 0 then '-' :: digits else digits)

def text : Number → String
  | integer n => integerText n
  | decimal x => Layout.plain.write x

end Number

inductive Literal
  | text (s : String)
  | number (n : Number)
  | boolean (b : Bool)
  /-- A quoted text that reads as an instant; both are kept. -/
  | timestamp (raw : String) (instant : Instant)
  deriving DecidableEq, Repr

namespace Literal

def booleanText (b : Bool) : String :=
  if b then "true" else "false"

/-- The literal as messages show it. -/
def shown : Literal → String
  | text s => Text.quote s
  | number n => n.text
  | boolean b => booleanText b
  | timestamp raw _ => Text.quote raw

/-- Whether the literal was quoted, and so can be compared as text. -/
def isTextual : Literal → Bool
  | text _ | timestamp _ _ => true
  | _ => false

/-- A quoted text is a timestamp exactly when it reads as an instant. -/
def ofQuoted (s : String) : Literal :=
  match Instant.ofText? s with
  | some instant => timestamp s instant
  | none => text s

end Literal

end FilterSql
