import Gatehouse.Decimal.Binary64
import Gatehouse.Text.Digits

namespace Gatehouse

/-- The number `digits * 10 ^ exponent`. -/
structure Scientific where
  digits : Nat
  exponent : Int
deriving DecidableEq, Repr

/-- The reals that round to a magnitude, in quarters of its last binary place. -/
structure RoundingRange where
  low : Nat
  high : Nat
  /-- Whether the ends round to the magnitude too. -/
  closed : Bool
  /-- What a quarter of the last place is, as a fraction. -/
  unitNum : Nat
  unitDen : Nat

namespace Magnitude

/-- Half a place to each side; below a power of two the places are half as wide. -/
def roundingRange (x : Magnitude) : RoundingRange where
  low := if x.significand = leadingBit ∧ minExponent < x.exponent then 4 * x.significand - 1
    else 4 * x.significand - 2
  high := 4 * x.significand + 2
  closed := x.significand % 2 = 0
  unitNum := Nat.pow 2 (x.exponent - 2).toNat
  unitDen := Nat.pow 2 (2 - x.exponent).toNat

/-- How many digits stand before the point; negative when zeros follow it. -/
def decimalPlace (x : Magnitude) : Int :=
  if x.denominator ≤ x.numerator then (decimal (x.numerator / x.denominator)).length
  else 1 - (firstShift 400 x.numerator : Nat)
where
  /-- The least power of ten that lifts the fraction to one or more. -/
  firstShift : Nat → Nat → Nat
    | 0, _ => 0
    | rounds + 1, num =>
      if x.denominator ≤ num then 0 else firstShift rounds (num * 10) + 1

/-- Whether `digits * 10 ^ exponent` rounds to the magnitude. -/
def admits (x : Magnitude) (s : Scientific) : Bool :=
  let r := x.roundingRange
  let value := s.digits * Nat.pow 10 s.exponent.toNat * r.unitDen
  let unit := r.unitNum * Nat.pow 10 (-s.exponent).toNat
  if r.closed then r.low * unit ≤ value && value ≤ r.high * unit
  else r.low * unit < value && value < r.high * unit

/-- The decimal with this last place that is nearest to the magnitude, if it rounds to it. -/
def onGrid? (x : Magnitude) (exponent : Int) : Option Scientific :=
  let num := x.numerator * Nat.pow 10 (-exponent).toNat
  let den := x.denominator * Nat.pow 10 exponent.toNat
  let below : Scientific := ⟨num / den, exponent⟩
  let above : Scientific := ⟨num / den + 1, exponent⟩
  let near := if roundQuotient num den = below.digits then [below, above] else [above, below]
  near.find? x.admits

/--
The shortest decimal of a positive magnitude. The coarsest grid is that of the power of ten above
it, to which it may round up, and 17 digits are enough for any.
-/
def shortest (x : Magnitude) : Scientific :=
  let place := x.decimalPlace
  ((List.range 18).findSome? fun (n : Nat) => x.onGrid? (place - n)).getD ⟨0, 0⟩

end Magnitude

end Gatehouse
