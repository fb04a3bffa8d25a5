/-!
Binary floating point numbers of 64 bits, as a sign and a code. The codes of the numbers that are not
negative ascend with their values, one step per representable number.
-/

namespace FilterSql

structure Binary64 where
  negative : Bool
  code : Fin 0x8000000000000000
  deriving DecidableEq, Repr

namespace Binary64

/-- The code of infinity; smaller codes are finite, greater ones are no numbers. -/
def infinityCode : Nat := 0x7ff0000000000000

def isFinite (x : Binary64) : Bool :=
  x.code.val < infinityCode

def isInfinite (x : Binary64) : Bool :=
  x.code.val == infinityCode

def infinity (negative : Bool) : Binary64 :=
  ⟨negative, infinityCode, by decide⟩

/-- What is no number; a sign makes no difference to it. -/
def notNumber : Binary64 :=
  ⟨false, 0x7ff8000000000000, by decide⟩

def zero (negative : Bool) : Binary64 :=
  ⟨negative, 0, by decide⟩

/-- The bit pattern of the interchange format. -/
def bits (x : Binary64) : Nat :=
  (if x.negative then 0x8000000000000000 else 0) + x.code.val

/-- Codes and significands from `2 ^ 52` on are those of normal numbers. -/
def leastNormal : Nat := 0x10000000000000

/-- A finite number is `significand * 2 ^ exponent`. -/
def significand (x : Binary64) : Nat :=
  if x.code.val < leastNormal then x.code.val else x.code.val % leastNormal + leastNormal

@[inherit_doc significand]
def exponent (x : Binary64) : Int :=
  if x.code.val < leastNormal then -1074 else (x.code.val / leastNormal : Nat) - 1075

end Binary64

end FilterSql
