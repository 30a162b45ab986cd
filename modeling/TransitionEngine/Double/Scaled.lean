import TransitionEngine.Double.Basic

/-!
# Doubles from decimals

A decimal is taken in steps, each of which rounds: its digits become a double, which is then scaled by
the double of a power of ten. With at most fifteen digits and a power of at most `10 ^ 22` this is the
nearest double; beyond that it may be a neighbour of it.
-/

namespace TransitionEngine.Double

/-- The magnitude of a double is this over its `denominator`. -/
def numerator (double : Double) : Nat :=
  double.significand <<< double.exponent.toNat

def denominator (double : Double) : Nat :=
  1 <<< (-double.exponent).toNat

/-- The nearest double to a fraction; none when that is beyond the largest. -/
def ofFraction? (numerator denominator : Nat) : Option Double := do
  ofBits? (← nearestBits? numerator denominator)

def times? (left right : Double) : Option Double :=
  ofFraction? (left.numerator * right.numerator) (left.denominator * right.denominator)

def over? (left right : Double) : Option Double :=
  ofFraction? (left.numerator * right.denominator) (left.denominator * right.numerator)

/-- The largest power of ten that is a double. -/
def mostPlaces : Nat := 308

def powerOfTen? (places : Nat) : Option Double :=
  ofFraction? (Nat.pow 10 places) 1

/-- A magnitude moved up by so many decimal places. -/
def scaleUp? (double : Double) (places : Nat) : Option Double :=
  if double.isZero then some double
  else if mostPlaces < places then none
  else do double.times? (← powerOfTen? places)

/-- A magnitude moved down by so many decimal places. -/
def scaleDown? (double : Double) (places : Nat) : Option Double :=
  if double.isZero then some double
  else if mostPlaces < places then do
    (← double.over? (← powerOfTen? mostPlaces)).scaleDown? (places - mostPlaces)
  else do double.over? (← powerOfTen? places)
termination_by places
decreasing_by simp only [mostPlaces] at *; omega

def withSign (negative : Bool) (double : Double) : Option Double :=
  ofBits? (signBit negative ||| double.bits)

/-- The double for `digits * 10 ^ exponent`; none when a step goes beyond the largest. -/
def ofDecimal? (negative : Bool) (digits : Nat) (exponent : Int) : Option Double := do
  let double ← ofFraction? digits 1
  let scaled ←
    if 0 ≤ exponent then double.scaleUp? exponent.toNat else double.scaleDown? (-exponent).toNat
  scaled.withSign negative

end TransitionEngine.Double
