import LootScript.Json.Double

/-!
# Estimates of decimal numbers

Nineteen digits times a power of ten, in words of 64 bits. An estimate bounds how far off it may be,
so it settles which double is nearest to a number with these leading digits, unless a point halfway
between two doubles is within the bound: then the question is open.
-/
namespace LootScript

/-- The number `significand * 2 ^ exponent`, off by at most `error` eighths of `2 ^ exponent`. -/
structure Estimate where
  significand : Nat
  exponent : Int
  error : Nat

namespace Estimate

/-- Moves the leading bit of the significand to the top of the word. -/
def normalize (e : Estimate) : Estimate :=
  let shift := 63 - e.significand.log2
  ⟨e.significand * Nat.pow 2 shift, e.exponent - shift, e.error * Nat.pow 2 shift⟩

/--
The upper word of a product. To the errors of both comes half a unit for its rounding and an eighth
for what the errors make of each other.
-/
def times (e f : Estimate) : Estimate :=
  ⟨(e.significand * f.significand + Nat.pow 2 63) / Nat.pow 2 64, e.exponent + f.exponent + 64,
    e.error + f.error + 5⟩

/-- A power of ten, rounded to a word. -/
def tenPower (power : Int) : Estimate :=
  let num := Nat.pow 10 power.toNat
  let den := Nat.pow 10 (-power).toNat
  let place := Double.binaryOrder num den - 63
  ⟨Double.roundQuotient (num * Nat.pow 2 (-place).toNat) (den * Nat.pow 2 place.toNat), place, 4⟩

/-- Digits that have been rounded to a whole number, times a power of ten. -/
def ofDecimal (digits : Nat) (power : Int) : Estimate :=
  ((normalize ⟨digits, 0, 4⟩).times (tenPower power)).normalize

/-- How many bits of the word are below the last place of a double of this size. -/
def lowBits (e : Estimate) : Nat := 64 - min 53 (e.exponent + 64 + 1074).toNat

/-- The magnitude of the double that is left without the low bits. -/
def below (e : Estimate) : Nat :=
  (e.exponent + e.lowBits + 1074).toNat * Double.perExponent + e.significand / Nat.pow 2 e.lowBits

/--
Whether the halfway point above `below` is within the error. At most 60 low bits are looked at: the
others count as one unit of error more, and an eighth makes up for the remainder of the error.
-/
def isOpen (e : Estimate) : Bool :=
  let unseen := e.lowBits - 60
  let error := if unseen = 0 then e.error else e.error / Nat.pow 2 unseen + 9
  let low := 8 * (e.significand % Nat.pow 2 e.lowBits / Nat.pow 2 unseen)
  let half := 8 * Nat.pow 2 (e.lowBits - unseen - 1)
  half < low + error ∧ low < half + error

end Estimate

end LootScript
