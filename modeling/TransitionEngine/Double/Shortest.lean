import TransitionEngine.Double.Basic

/-!
# Shortest decimal digits

A double stands for every real that rounds to it. Of the decimals in that interval the one with the
fewest digits is chosen, and of those the nearest to the double itself.
-/

namespace TransitionEngine.Double

/-- A decimal `digits * 10 ^ exponent`. -/
structure Decimal where
  digits : Nat
  exponent : Int
  deriving DecidableEq

/-- The reals that round to a double, as numerators over one common denominator. -/
structure Interval where
  low : Nat
  middle : Nat
  high : Nat
  denominator : Nat
  closed : Bool

def interval (double : Double) : Interval :=
  let quarter := 1 <<< double.exponent.toNat
  let below := if double.significand = leadingBit ∧ 1 < double.biasedExponent then 1 else 2
  { low := (4 * double.significand - below) * quarter
    middle := 4 * double.significand * quarter
    high := (4 * double.significand + 2) * quarter
    denominator := 4 <<< (-double.exponent).toNat
    closed := double.significand % 2 = 0 }

/-- The exponent of the first decimal digit of a positive fraction. -/
def leadingExponent (numerator denominator : Nat) : Int :=
  if denominator ≤ numerator then (Nat.toDigits 10 (numerator / denominator)).length - 1
  else
    let places := (Nat.toDigits 10 (denominator / numerator)).length
    if numerator * Nat.pow 10 (places - 1) = denominator then 1 - places else -places

/-- The point of the grid of multiples of `10 ^ exponent` nearest to the middle, if one is inside. -/
def Interval.nearestOn? (interval : Interval) (exponent : Int) : Option Nat :=
  let scale := Nat.pow 10 (-exponent).toNat
  let unit := interval.denominator * Nat.pow 10 exponent.toNat
  let inside (point : Nat) : Bool :=
    if interval.closed then interval.low * scale ≤ point * unit ∧ point * unit ≤ interval.high * scale
    else interval.low * scale < point * unit ∧ point * unit < interval.high * scale
  let below := interval.middle * scale / unit
  let remainder := interval.middle * scale % unit
  let belowIsNearer := 2 * remainder < unit ∨ (2 * remainder = unit ∧ below % 2 = 0)
  if inside below ∧ (belowIsNearer ∨ ¬ inside (below + 1)) then some below
  else if inside (below + 1) then some (below + 1)
  else none

def Decimal.trim (decimal : Decimal) : Nat → Decimal
  | 0 => decimal
  | fuel + 1 =>
      if decimal.digits % 10 = 0 ∧ decimal.digits ≠ 0 then
        Decimal.trim ⟨decimal.digits / 10, decimal.exponent + 1⟩ fuel
      else decimal

/-- The shortest decimal of a double's magnitude; seventeen digits always suffice. -/
def shortest (double : Double) : Decimal :=
  if double.isZero then ⟨0, 0⟩
  else
    let interval := double.interval
    let leading := leadingExponent interval.middle interval.denominator
    let grid? (count : Nat) : Option Decimal :=
      let exponent := leading - count
      (interval.nearestOn? exponent).map fun point => ⟨point, exponent⟩
    (((List.range 17).findSome? grid?).getD ⟨0, 0⟩).trim 17

end TransitionEngine.Double
