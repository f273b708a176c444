import LootScript.Json.Numeral
import Mathlib.Data.Int.Log
import Mathlib.Data.Rat.Floor
import Mathlib.Tactic.FieldSimp
import Mathlib.Tactic.Linarith
import Mathlib.Tactic.Ring

/-!
# Rounding to doubles

The magnitude nearest to a quotient depends on the quotient alone, not on the numbers that it is
written with; the order of magnitude that it starts from is the logarithm of the quotient. A
quotient that a double stands for is rounded to that double, and a numeral denotes the same double
when zeros are moved from its coefficient into its exponent.
-/
namespace LootScript

namespace Double

variable {num den num' den' : Nat}

/-! ## Orders of magnitude -/

theorem two_zpow_eq (k : Int) : (2 : ℚ) ^ k = 2 ^ k.toNat / 2 ^ (-k).toNat := by
  obtain ⟨n, rfl | rfl⟩ := k.eq_nat_or_neg
  · simp
  · simp

/-- Comparing with a power of two, in whole numbers. -/
theorem two_zpow_le_iff (positive : 0 < den) (k : Int) :
    (2 : ℚ) ^ k ≤ (num : ℚ) / den ↔ den * 2 ^ k.toNat ≤ num * 2 ^ (-k).toNat := by
  have den' : (0 : ℚ) < den := by exact_mod_cast positive
  rw [two_zpow_eq, div_le_div_iff₀ (by positivity) den', mul_comm]
  exact_mod_cast Iff.rfl

/-- The logarithms of two naturals give the one of their quotient, up to one. -/
theorem quotient_between (filled : 0 < num) (positive : 0 < den) :
    (2 : ℚ) ^ ((num.log2 : Int) - den.log2 - 1) ≤ (num : ℚ) / den ∧
      (num : ℚ) / den < (2 : ℚ) ^ ((num.log2 : Int) - den.log2 + 1) := by
  have numBelow : (num : ℚ) < 2 ^ (num.log2 + 1) := by exact_mod_cast Nat.lt_log2_self
  have denBelow : (den : ℚ) < 2 ^ (den.log2 + 1) := by exact_mod_cast Nat.lt_log2_self
  have numAbove : (2 : ℚ) ^ num.log2 ≤ num := by exact_mod_cast Nat.log2_self_le filled.ne'
  have denAbove : (2 : ℚ) ^ den.log2 ≤ den := by exact_mod_cast Nat.log2_self_le positive.ne'
  have den' : (0 : ℚ) < den := by exact_mod_cast positive
  have power (m n : Nat) : (2 : ℚ) ^ ((m : Int) - n) = 2 ^ m / 2 ^ n := by
    rw [zpow_sub₀ two_ne_zero, zpow_natCast, zpow_natCast]
  constructor
  · have exponent : (num.log2 : Int) - den.log2 - 1 = num.log2 - (den.log2 + 1 : Nat) := by
      push_cast
      ring
    rw [exponent, power]
    gcongr
  · have exponent : (num.log2 : Int) - den.log2 + 1 = (num.log2 + 1 : Nat) - den.log2 := by
      push_cast
      ring
    rw [exponent, power]
    gcongr

theorem binaryOrder_eq_log (filled : 0 < num) (positive : 0 < den) :
    binaryOrder num den = Int.log 2 ((num : ℚ) / den) := by
  have quotient : (0 : ℚ) < (num : ℚ) / den := by positivity
  obtain ⟨above, below⟩ := quotient_between filled positive
  have least : (num.log2 : Int) - den.log2 - 1 ≤ Int.log 2 ((num : ℚ) / den) :=
    (Int.zpow_le_iff_le_log (by decide) quotient).mp (by exact_mod_cast above)
  have most : Int.log 2 ((num : ℚ) / den) < (num.log2 : Int) - den.log2 + 1 :=
    (Int.lt_zpow_iff_log_lt (by decide) quotient).mp (by exact_mod_cast below)
  -- The comparison says which of the two values that are left is the right one.
  have decided : ((num.log2 : Int) - den.log2 ≤ Int.log 2 ((num : ℚ) / den)) ↔
      ¬ num * 2 ^ (-((num.log2 : Int) - den.log2)).toNat <
        den * 2 ^ ((num.log2 : Int) - den.log2).toNat := by
    rw [← Int.zpow_le_iff_le_log (by decide) quotient, Nat.not_lt, ← two_zpow_le_iff positive]
    exact_mod_cast Iff.rfl
  simp only [binaryOrder, Nat.pow_eq]
  split <;> omega

/-! ## Rounding depends on the quotient -/

theorem roundQuotient_scale {m : Nat} (positive : 0 < m) (num den : Nat) :
    roundQuotient (num * m) (den * m) = roundQuotient num den := by
  have twice : 2 * (num % den * m) = 2 * (num % den) * m := by ring
  simp only [roundQuotient, Nat.mul_div_mul_right _ _ positive, Nat.mul_mod_mul_right, twice,
    Nat.mul_lt_mul_right positive, Nat.mul_left_inj positive.ne']

theorem roundQuotient_congr (positive : 0 < den) (positive' : 0 < den')
    (same : num * den' = num' * den) : roundQuotient num den = roundQuotient num' den' := by
  rw [← roundQuotient_scale positive', same, mul_comm den, roundQuotient_scale positive]

theorem nearestMagnitude_congr (positive : 0 < den) (positive' : 0 < den')
    (same : num * den' = num' * den) : nearestMagnitude num den = nearestMagnitude num' den' := by
  obtain rfl | filled := Nat.eq_zero_or_pos num
  · have zero : num' = 0 := by
      rw [Nat.zero_mul, eq_comm, Nat.mul_eq_zero] at same
      exact same.resolve_right positive.ne'
    rw [nearestMagnitude, nearestMagnitude, if_pos rfl, if_pos zero]
  · have filled' : 0 < num' := by
      refine Nat.pos_of_mul_pos_right (b := den) ?_
      rw [← same]
      positivity
    have quotient : (num : ℚ) / den = (num' : ℚ) / den' := by
      rw [div_eq_div_iff (by positivity) (by positivity)]
      exact_mod_cast same
    have order : binaryOrder num den = binaryOrder num' den' := by
      rw [binaryOrder_eq_log filled positive, binaryOrder_eq_log filled' positive', quotient]
    rw [nearestMagnitude, nearestMagnitude, if_neg filled.ne', if_neg filled'.ne', order]
    simp only [Nat.pow_eq]
    congr 1
    refine roundQuotient_congr (by positivity) (by positivity) ?_
    rw [mul_mul_mul_comm, same, mul_mul_mul_comm]

/-! ## Doubles are their own roundings -/

theorem roundQuotient_mul {m : Nat} (positive : 0 < m) (n : Nat) : roundQuotient (n * m) m = n := by
  rw [← Nat.one_mul m, ← Nat.mul_assoc, roundQuotient_scale positive]
  simp [roundQuotient, Nat.mod_one]

variable {d : Double}

theorem denominator_pos : 0 < d.denominator := by
  rw [denominator, Nat.pow_eq]
  positivity

theorem quotient_eq : (d.numerator : ℚ) / d.denominator = d.significand * 2 ^ d.exponent := by
  rw [numerator, denominator, two_zpow_eq]
  simp only [Nat.pow_eq]
  push_cast
  ring

/-- Below `perExponent` the magnitude is the significand; above it the leading bit is left out. -/
theorem magnitude_cases (d : Double) :
    (d.significand = d.magnitude ∧ d.exponent = -1074 ∧ d.magnitude < perExponent) ∨
      (perExponent ≤ d.significand ∧ d.significand < 2 * perExponent ∧ -1074 ≤ d.exponent ∧
        (d.exponent + 1074).toNat * perExponent + d.significand = d.magnitude) := by
  have filled : 0 < perExponent := by decide
  rw [significand, exponent]
  by_cases small : d.magnitude < perExponent
  · exact .inl ⟨if_pos small, if_pos small, small⟩
  · rw [if_neg small, if_neg small]
    have leads : 1 ≤ d.magnitude / perExponent :=
      (Nat.one_le_div_iff filled).mpr (Nat.le_of_not_lt small)
    have place : ((d.magnitude / perExponent : Nat) - 1075 + 1074 : Int).toNat =
        d.magnitude / perExponent - 1 := by omega
    have whole := Nat.div_add_mod d.magnitude perExponent
    have below := Nat.mod_lt d.magnitude filled
    have parted : (d.magnitude / perExponent - 1) * perExponent + perExponent =
        perExponent * (d.magnitude / perExponent) := by
      rw [← Nat.succ_mul, Nat.succ_eq_add_one, Nat.sub_add_cancel leads, Nat.mul_comm]
    exact .inr ⟨by omega, by omega, by omega, by rw [place]; omega⟩

theorem magnitude_eq (d : Double) :
    (d.exponent + 1074).toNat * perExponent + d.significand = d.magnitude := by
  obtain ⟨same, least, -⟩ | ⟨-, -, -, whole⟩ := d.magnitude_cases
  · simp [same, least]
  · exact whole

theorem significand_lt (d : Double) : d.significand < 2 * perExponent := by
  obtain ⟨same, -, below⟩ | ⟨-, below, -⟩ := d.magnitude_cases
  · omega
  · exact below

/-- The last place of a double is the one that its order of magnitude leaves it. -/
theorem place_eq (filled : 0 < d.numerator) :
    max (binaryOrder d.numerator d.denominator - 52) (-1074) = d.exponent := by
  have quotient : (0 : ℚ) < (d.numerator : ℚ) / d.denominator :=
    div_pos (by exact_mod_cast filled) (by exact_mod_cast denominator_pos)
  rw [binaryOrder_eq_log filled denominator_pos]
  have scaled (n : Nat) : (2 : ℚ) ^ ((n : Int) + d.exponent) = (2 ^ n : Nat) * 2 ^ d.exponent := by
    rw [zpow_add₀ two_ne_zero, zpow_natCast]
    push_cast
    rfl
  have place : (0 : ℚ) < 2 ^ d.exponent := zpow_pos two_pos _
  have most : Int.log 2 ((d.numerator : ℚ) / d.denominator) < (53 : Nat) + d.exponent := by
    rw [← Int.lt_zpow_iff_log_lt (by decide) quotient, Nat.cast_two, scaled, quotient_eq]
    exact mul_lt_mul_of_pos_right (by exact_mod_cast d.significand_lt) place
  obtain ⟨-, least, -⟩ | ⟨leads, -, least, -⟩ := d.magnitude_cases
  · omega
  · have atLeast : (52 : Nat) + d.exponent ≤ Int.log 2 ((d.numerator : ℚ) / d.denominator) := by
      rw [← Int.zpow_le_iff_le_log (by decide) quotient, Nat.cast_two, scaled, quotient_eq]
      exact mul_le_mul_of_nonneg_right (by exact_mod_cast leads) place.le
    omega

theorem nearestMagnitude_self (d : Double) :
    nearestMagnitude d.numerator d.denominator = d.magnitude := by
  obtain zero | filled := Nat.eq_zero_or_pos d.numerator
  · rw [nearestMagnitude, if_pos zero]
    rw [numerator, Nat.pow_eq, Nat.mul_eq_zero] at zero
    have nothing : d.significand = 0 := zero.resolve_right (by positivity)
    obtain ⟨same, -, -⟩ | ⟨leads, -, -, -⟩ := d.magnitude_cases
    · omega
    · rw [nothing] at leads
      exact absurd leads (by decide)
  · rw [nearestMagnitude, if_neg filled.ne', place_eq filled]
    have same : d.numerator * Nat.pow 2 (-d.exponent).toNat =
        d.significand * (d.denominator * Nat.pow 2 d.exponent.toNat) := by
      rw [numerator, denominator, Nat.mul_assoc, Nat.mul_comm (Nat.pow 2 d.exponent.toNat)]
    have scale : 0 < d.denominator * Nat.pow 2 d.exponent.toNat := by
      rw [Nat.pow_eq]
      exact Nat.mul_pos denominator_pos (by positivity)
    simp only [same, roundQuotient_mul scale]
    exact d.magnitude_eq

/-! ## Decimal numbers -/

variable {c : Nat} {e : Int}

theorem decimalLength_pos : 0 < decimalLength c := Nat.length_toDigits_pos

theorem decimalLength_le_iff {k : Nat} (positive : 0 < k) : decimalLength c ≤ k ↔ c < 10 ^ k :=
  Nat.length_toDigits_le_iff (by decide) positive

theorem lt_pow_decimalLength : c < 10 ^ decimalLength c :=
  (decimalLength_le_iff decimalLength_pos).mp le_rfl

theorem pow_decimalLength_le (filled : 0 < c) : 10 ^ (decimalLength c - 1) ≤ c := by
  obtain one | more := Nat.eq_or_lt_of_le (decimalLength_pos (c := c))
  · rw [← one]
    exact filled
  · refine Nat.le_of_not_lt fun below => ?_
    have fewer : decimalLength c ≤ decimalLength c - 1 :=
      (decimalLength_le_iff (by omega)).mpr below
    omega

theorem decimalLength_mul_pow (filled : 0 < c) (k : Nat) :
    decimalLength (c * 10 ^ k) = decimalLength c + k := by
  apply Nat.le_antisymm
  · rw [decimalLength_le_iff (by have := decimalLength_pos (c := c); omega), pow_add]
    exact Nat.mul_lt_mul_of_pos_right lt_pow_decimalLength (by positivity)
  · have below : c * 10 ^ k < 10 ^ decimalLength (c * 10 ^ k) := lt_pow_decimalLength
    have longer : k < decimalLength (c * 10 ^ k) :=
      (Nat.pow_lt_pow_iff_right (by decide)).mp ((Nat.le_mul_of_pos_left _ filled).trans_lt below)
    obtain ⟨j, length⟩ := Nat.exists_eq_add_of_lt longer
    rw [length] at below ⊢
    rw [show k + j + 1 = j + 1 + k by omega, pow_add] at below
    have few : decimalLength c ≤ j + 1 :=
      (decimalLength_le_iff (by omega)).mpr (Nat.lt_of_mul_lt_mul_right below)
    omega

/-- Zeros at the end of a coefficient count as much in the exponent. -/
theorem ofDecimal?_shift (negative : Bool) (c k : Nat) (e : Int) :
    ofDecimal? negative (c * 10 ^ k) e = ofDecimal? negative c (e + k) := by
  obtain rfl | filled := Nat.eq_zero_or_pos c
  · simp [ofDecimal?]
  · have order : e + (decimalLength (c * 10 ^ k) : Int) = e + k + decimalLength c := by
      rw [decimalLength_mul_pow filled]
      omega
    have same : nearestMagnitude (c * 10 ^ k * 10 ^ e.toNat) (10 ^ (-e).toNat) =
        nearestMagnitude (c * 10 ^ (e + k).toNat) (10 ^ (-(e + k)).toNat) := by
      refine nearestMagnitude_congr (by positivity) (by positivity) ?_
      rw [Nat.mul_assoc, Nat.mul_assoc, Nat.mul_assoc, ← pow_add, ← pow_add, ← pow_add]
      congr 2
      omega
    have nonzero : c * 10 ^ k ≠ 0 := by positivity
    simp only [ofDecimal?, order, Nat.pow_eq, same, nonzero, filled.ne']

theorem ofDecimal?_sign (negative : Bool) :
    ofDecimal? negative c e =
      (ofDecimal? false c e).map fun d => { d with negative := negative } := by
  simp only [ofDecimal?, ofMagnitude?]
  split
  · rfl
  · split
    · rfl
    · split <;> rfl

theorem exponent_le (d : Double) : d.exponent ≤ 971 := by
  have finite := d.finite
  rw [exponent]
  split
  · decide
  · have top : d.magnitude / perExponent < 2047 :=
      (Nat.div_lt_iff_lt_mul (by decide)).mpr finite
    omega

theorem le_exponent (d : Double) : -1074 ≤ d.exponent := by
  obtain ⟨-, least, -⟩ | ⟨-, -, least, -⟩ := d.magnitude_cases
  · omega
  · exact least

theorem numerator_lt (d : Double) : d.numerator < 2 ^ 1024 := by
  have place : d.exponent.toNat ≤ 971 := Int.toNat_le.mpr d.exponent_le
  calc d.numerator = d.significand * 2 ^ d.exponent.toNat := rfl
    _ ≤ d.significand * 2 ^ 971 := by gcongr; decide
    _ < 2 * perExponent * 2 ^ 971 := Nat.mul_lt_mul_of_pos_right d.significand_lt (by positivity)
    _ = 2 ^ 1024 := by decide +kernel

theorem denominator_le (d : Double) : d.denominator ≤ 2 ^ 1074 := by
  have place : (-d.exponent).toNat ≤ 1074 :=
    Int.toNat_le.mpr (Int.neg_le_of_neg_le d.le_exponent)
  calc d.denominator = 2 ^ (-d.exponent).toNat := rfl
    _ ≤ 2 ^ 1074 := by gcongr; decide

/-- No double but zero is so small that its order is settled without the power of ten. -/
theorem order_ge (filled : 0 < d.numerator)
    (same : c * 10 ^ e.toNat * d.denominator = d.numerator * 10 ^ (-e).toNat) :
    -330 ≤ e + decimalLength c := by
  refine Int.not_lt.mp fun order => ?_
  have bound : 10 ^ (decimalLength c + e.toNat + 330) <
      10 ^ (decimalLength c + e.toNat) * 2 ^ 1074 :=
    calc 10 ^ (decimalLength c + e.toNat + 330)
        ≤ 10 ^ (-e).toNat := Nat.pow_le_pow_right (by decide) (by omega)
      _ ≤ d.numerator * 10 ^ (-e).toNat := Nat.le_mul_of_pos_left _ filled
      _ = c * 10 ^ e.toNat * d.denominator := same.symm
      _ < 10 ^ decimalLength c * 10 ^ e.toNat * 2 ^ 1074 := by
        refine Nat.mul_lt_mul_of_lt_of_le ?_ d.denominator_le (by positivity)
        exact Nat.mul_lt_mul_of_pos_right lt_pow_decimalLength (by positivity)
      _ = 10 ^ (decimalLength c + e.toNat) * 2 ^ 1074 := by rw [pow_add]
  rw [pow_add] at bound
  exact absurd (Nat.lt_of_mul_lt_mul_left bound) (by decide +kernel)

/-- No double is so large that its order is settled without the power of ten. -/
theorem order_le (filled : 0 < c)
    (same : c * 10 ^ e.toNat * d.denominator = d.numerator * 10 ^ (-e).toNat) :
    e + decimalLength c ≤ 310 := by
  refine Int.not_lt.mp fun order => ?_
  have bound : 10 ^ (310 + (-e).toNat) < 2 ^ 1024 * 10 ^ (-e).toNat :=
    calc 10 ^ (310 + (-e).toNat)
        ≤ 10 ^ (decimalLength c - 1 + e.toNat) := Nat.pow_le_pow_right (by decide) (by omega)
      _ = 10 ^ (decimalLength c - 1) * 10 ^ e.toNat := pow_add _ _ _
      _ ≤ c * 10 ^ e.toNat := Nat.mul_le_mul_right _ (pow_decimalLength_le filled)
      _ ≤ c * 10 ^ e.toNat * d.denominator := Nat.le_mul_of_pos_right _ denominator_pos
      _ = d.numerator * 10 ^ (-e).toNat := same
      _ < 2 ^ 1024 * 10 ^ (-e).toNat :=
        Nat.mul_lt_mul_of_pos_right d.numerator_lt (by positivity)
  rw [pow_add] at bound
  exact absurd (Nat.lt_of_mul_lt_mul_right bound) (by decide +kernel)

/-- A numeral with the value of a double denotes the double. -/
theorem ofDecimal?_of_quotient (filled : 0 < d.numerator)
    (same : c * 10 ^ e.toNat * d.denominator = d.numerator * 10 ^ (-e).toNat) :
    ofDecimal? d.negative c e = some d := by
  have coefficient : 0 < c := by
    refine Nat.pos_of_ne_zero fun zero => ?_
    rw [zero, Nat.zero_mul, Nat.zero_mul] at same
    have positive : 0 < d.numerator * 10 ^ (-e).toNat := Nat.mul_pos filled (by positivity)
    omega
  have small : ¬ e + (decimalLength c : Int) < -330 := Int.not_lt.mpr (order_ge filled same)
  have large : ¬ e + (decimalLength c : Int) > 310 := Int.not_lt.mpr (order_le coefficient same)
  have nearest : nearestMagnitude (c * 10 ^ e.toNat) (10 ^ (-e).toNat) = d.magnitude := by
    rw [← d.nearestMagnitude_self]
    exact nearestMagnitude_congr (by positivity) denominator_pos same
  simp only [ofDecimal?, coefficient.ne', small, large, Nat.pow_eq, nearest, ofMagnitude?,
    d.finite, or_self, if_false, dite_true]

end Double

end LootScript
