/-!
Numbers are 64-bit binary floating point values, kept as their bit pattern. A pattern names one
value exactly, so storing and restoring a number never changes it, payloads of not-a-number
included; comparison of values is a separate operation.
-/
namespace ConstraintTree

/-- A 64-bit floating point number: one sign bit, eleven exponent bits, fifty-two fraction bits. -/
structure Binary64 where
  bits : UInt64
  deriving DecidableEq, Repr, Inhabited

namespace Binary64

def isNegative (number : Binary64) : Bool := decide (Nat.pow 2 63 ≤ number.bits.toNat)

def biasedExponent (number : Binary64) : Nat := number.bits.toNat / Nat.pow 2 52 % Nat.pow 2 11

def fraction (number : Binary64) : Nat := number.bits.toNat % Nat.pow 2 52

/-- The largest exponent is reserved for the infinities and not-a-number. -/
def isFinite (number : Binary64) : Bool := number.biasedExponent != 2047

def isNaN (number : Binary64) : Bool := number.biasedExponent == 2047 && number.fraction != 0

def isZero (number : Binary64) : Bool := number.biasedExponent == 0 && number.fraction == 0

/-- Equality of values: the two zeros are equal, and not-a-number equals nothing. -/
def agrees (left right : Binary64) : Bool :=
  !left.isNaN && !right.isNaN && (left.bits == right.bits || left.isZero && right.isZero)

/-- The integer in front of the power of two. Exponent zero has no implicit leading bit. -/
def significand (number : Binary64) : Nat :=
  if number.biasedExponent = 0 then number.fraction else number.fraction + Nat.pow 2 52

def spacing (number : Binary64) : Nat := Nat.pow 2 (number.biasedExponent - 1)

/-- Magnitude of a finite number in units of the smallest positive number, `2 ^ -1074`. -/
def magnitude (number : Binary64) : Nat := number.significand * number.spacing

end Binary64
end ConstraintTree
