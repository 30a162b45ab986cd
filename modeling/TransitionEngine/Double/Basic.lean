/-!
# Finite doubles

A double is held by its 64 bits, so that everything about it is integer arithmetic: the magnitude is
`significand * 2 ^ exponent`. Infinities and NaNs have no place in a document and are left out.
-/

namespace TransitionEngine

structure Double where
  bits : UInt64
  finite : (bits >>> 52) &&& 0x7ff ≠ 0x7ff
  deriving DecidableEq

namespace Double

def isNegative (double : Double) : Bool :=
  double.bits >>> 63 = 1

def biasedExponent (double : Double) : Nat :=
  ((double.bits >>> 52) &&& 0x7ff).toNat

def fraction (double : Double) : Nat :=
  (double.bits &&& 0xfffffffffffff).toNat

/-- The bit above the fraction, `2 ^ 52`: it is set in a significand unless the double is subnormal. -/
def leadingBit : Nat := 0x10000000000000

def significand (double : Double) : Nat :=
  if double.biasedExponent = 0 then double.fraction else double.fraction + leadingBit

def exponent (double : Double) : Int :=
  (max double.biasedExponent 1 : Nat) - 1075

def isZero (double : Double) : Bool :=
  double.significand = 0

/-- Numeric equality: the two zeros are equal. -/
def same (left right : Double) : Bool :=
  left = right || (left.isZero && right.isZero)

def ofBits? (bits : UInt64) : Option Double :=
  if finite : (bits >>> 52) &&& 0x7ff ≠ 0x7ff then some ⟨bits, finite⟩ else none

def signBit (negative : Bool) : UInt64 :=
  if negative then 0x8000000000000000 else 0

/-- The quotient rounded to the nearest integer, a half to the even one. -/
def roundDiv (numerator denominator : Nat) : Nat :=
  let quotient := numerator / denominator
  let twice := 2 * (numerator % denominator)
  if twice < denominator then quotient
  else if denominator < twice then quotient + 1
  else quotient + quotient % 2

/-- The bits of the nearest double to a positive fraction; none when that is beyond the largest. -/
def nearestBits? (numerator denominator : Nat) : Option UInt64 :=
  let estimate : Int := (numerator.log2 : Int) - denominator.log2 - 53
  let scaled (shift : Int) : Nat × Nat :=
    (numerator <<< (-shift).toNat, denominator <<< shift.toNat)
  let shift := max estimate (-1074)
  let shift := if (scaled shift).1 / (scaled shift).2 < 2 * leadingBit then shift else shift + 1
  let rounded := roundDiv (scaled shift).1 (scaled shift).2
  let (rounded, shift) :=
    if rounded = 2 * leadingBit then (leadingBit, shift + 1) else (rounded, shift)
  if rounded < leadingBit then some rounded.toUInt64
  else
    let biased := (shift + 1075).toNat
    if biased < 2047 then some ((biased * leadingBit + (rounded - leadingBit)).toUInt64) else none

end Double

end TransitionEngine
