/-!
# Doubles

The finite binary64 numbers, held as a sign and a magnitude. Magnitudes count the nonnegative
doubles upwards from zero, so `2 ^ 52` of them share each binary exponent and the order of the
magnitudes is the order of the values. Infinities and not-a-number have no magnitude: no JSON text
denotes them.

Decimal numerals are rounded to the nearest double, and a tie goes to the even significand. All of
it is exact arithmetic on naturals.
-/
namespace LootScript

/-- How many magnitudes share a binary exponent: `2 ^ 52`. -/
def Double.perExponent : Nat := 0x10000000000000

structure Double where
  negative : Bool
  magnitude : Nat
  finite : magnitude < 2047 * Double.perExponent
  deriving DecidableEq

namespace Double

/-- The number is `significand * 2 ^ exponent`, up to its sign. -/
def significand (d : Double) : Nat :=
  if d.magnitude < perExponent then d.magnitude else perExponent + d.magnitude % perExponent

def exponent (d : Double) : Int :=
  if d.magnitude < perExponent then -1074 else (d.magnitude / perExponent : Nat) - 1075

/-- The absolute value as a quotient. -/
def numerator (d : Double) : Nat := d.significand * Nat.pow 2 d.exponent.toNat

def denominator (d : Double) : Nat := Nat.pow 2 (-d.exponent).toNat

/-- The natural number nearest to a quotient; halfway, the even one. -/
def roundQuotient (num den : Nat) : Nat :=
  let low := num / den
  let rest := 2 * (num % den)
  if rest < den ∨ (rest = den ∧ low % 2 = 0) then low else low + 1

/-- The base-two order of magnitude of a positive quotient. -/
def binaryOrder (num den : Nat) : Int :=
  let guess : Int := (num.log2 : Int) - (den.log2 : Int)
  if num * Nat.pow 2 (-guess).toNat < den * Nat.pow 2 guess.toNat then guess - 1 else guess

/--
The magnitude nearest to a quotient. The significand is rounded at the last place that the
quotient's order of magnitude leaves it; rounding up to the next power of two lands on the first
magnitude of the next exponent by itself.
-/
def nearestMagnitude (num den : Nat) : Nat :=
  if num = 0 then 0
  else
    -- 52 places below the leading bit, but never below the last place of the smallest double.
    let place := max (binaryOrder num den - 52) (-1074)
    (place + 1074).toNat * perExponent +
      roundQuotient (num * Nat.pow 2 (-place).toNat) (den * Nat.pow 2 place.toNat)

/-- How many digits a natural has in base ten. -/
def decimalLength (n : Nat) : Nat := (Nat.toDigits 10 n).length

/-- The double of a magnitude, unless that is beyond the largest one. -/
def ofMagnitude? (negative : Bool) (magnitude : Nat) : Option Double :=
  if h : magnitude < 2047 * perExponent then some ⟨negative, magnitude, h⟩ else none

/--
The double nearest to `coefficient * 10 ^ exponent`, or none if that is beyond the largest one.
Orders of magnitude far outside the range are settled without the power of ten.
-/
def ofDecimal? (negative : Bool) (coefficient : Nat) (exponent : Int) : Option Double :=
  -- The quotient lies below `10 ^ order` and not below a tenth of it.
  let order := exponent + decimalLength coefficient
  if coefficient = 0 ∨ order < -330 then some ⟨negative, 0, by decide⟩
  else if order > 310 then none
  else ofMagnitude? negative
    (nearestMagnitude (coefficient * Nat.pow 10 exponent.toNat) (Nat.pow 10 (-exponent).toNat))

def isZero (d : Double) : Bool := d.magnitude == 0

example : ofDecimal? false 1 0 = some ⟨false, 1023 * perExponent, by decide⟩ := by decide +kernel

end Double

end LootScript
