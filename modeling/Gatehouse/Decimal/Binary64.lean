namespace Gatehouse

/-- The number `significand * 2 ^ exponent`. -/
structure Magnitude where
  significand : Nat
  exponent : Int
deriving DecidableEq, Repr

namespace Magnitude

def minExponent : Int := -1074

def maxExponent : Int := 971

def leadingBit : Nat := 0x10000000000000

def zero : Magnitude := ⟨0, minExponent⟩

def isZero (x : Magnitude) : Bool := x.significand == 0

/-- The numerator over `denominator` as a fraction of whole numbers. -/
def numerator (x : Magnitude) : Nat := x.significand * Nat.pow 2 x.exponent.toNat

def denominator (x : Magnitude) : Nat := Nat.pow 2 (-x.exponent).toNat

end Magnitude

/-- The whole number nearest to a quotient; halfway between two, the even one. -/
def roundQuotient (num den : Nat) : Nat :=
  let low := num / den
  let twice := 2 * (num % den)
  if twice < den then low
  else if den < twice then low + 1
  else if low % 2 = 0 then low else low + 1

/-- The greatest `e` with `2 ^ e ≤ num / den`, for a positive quotient. -/
def binaryExponent (num den : Nat) : Int :=
  let e : Int := (num.log2 : Int) - den.log2
  if num * Nat.pow 2 (-e).toNat < den * Nat.pow 2 e.toNat then e - 1 else e

/-- The number of the format nearest to a quotient; nothing when that lies beyond the format. -/
def Magnitude.nearest? (num den : Nat) : Option Magnitude :=
  if num = 0 then some .zero
  else
    let exponent := max (binaryExponent num den - 52) minExponent
    let significand :=
      roundQuotient (num * Nat.pow 2 (-exponent).toNat) (den * Nat.pow 2 exponent.toNat)
    let x : Magnitude :=
      if significand = 2 * leadingBit then ⟨leadingBit, exponent + 1⟩ else ⟨significand, exponent⟩
    if maxExponent < x.exponent then none else some x

namespace Magnitude

def mul? (x y : Magnitude) : Option Magnitude :=
  nearest? (x.numerator * y.numerator) (x.denominator * y.denominator)

def div? (x y : Magnitude) : Option Magnitude :=
  nearest? (x.numerator * y.denominator) (x.denominator * y.numerator)

end Magnitude

/-- A magnitude with a sign; zero has one too. -/
structure Binary64 where
  negative : Bool
  magnitude : Magnitude
deriving DecidableEq, Repr

/-- The greatest power of ten that the format can hold. -/
def maxTenPower : Nat := 308

/-- Scales by a power of ten within the format: the power is rounded first and then the result. -/
def Magnitude.scale? (x : Magnitude) (up : Bool) (power : Nat) : Option Magnitude := do
  let ten ← nearest? (Nat.pow 10 power) 1
  if up then x.mul? ten else x.div? ten

/--
The magnitude that `significand * 10 ^ exponent` is read as. Too small a number is divided by the
greatest power again and again; nothing when the number is too great.
-/
def Magnitude.ofDecimal? (significand : Nat) (exponent : Int) : Option Magnitude := do
  let start ← nearest? significand 1
  if 0 ≤ exponent then
    if exponent ≤ maxTenPower then start.scale? true exponent.toNat
    else if start.isZero then some start else none
  else shrink (exponent.natAbs / maxTenPower + 1) start exponent.natAbs
where
  shrink : Nat → Magnitude → Nat → Option Magnitude
    | 0, x, _ => some x
    | rounds + 1, x, power =>
      if power ≤ maxTenPower then x.scale? false power
      else if x.isZero then some x
      else (x.scale? false maxTenPower).bind fun y => shrink rounds y (power - maxTenPower)

end Gatehouse
