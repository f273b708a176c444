import LootScript.Proofs.Json.Rounding

/-!
# The shortest numeral of a double

It denotes the double: either it was found to, or it is the whole expansion, which has the value of
the double. In both cases its digits are few. A numeral that was tried has at most one more than the
length that it was tried with, and an expansion ends with the power of two in the denominator.
-/
namespace LootScript

namespace Double

variable {d : Double} {n : Decimal}

theorem numerator_pos (nonzero : d.isZero = false) : 0 < d.numerator := by
  have filled : 0 < d.significand := by
    have magnitude : d.magnitude ≠ 0 := by simpa [isZero] using nonzero
    obtain ⟨same, -, -⟩ | ⟨leads, -, -, -⟩ := d.magnitude_cases
    · omega
    · exact (show 0 < perExponent by decide).trans_le leads
  exact Nat.mul_pos filled (Nat.pow_pos (by decide))

/-! ## What it denotes -/

theorem ofDecimal?_of_isReadFrom (read : d.isReadFrom n = true) :
    ofDecimal? d.negative n.coefficient n.exponent = some d := by
  rw [ofDecimal?_sign, of_decide_eq_true read]
  rfl

theorem isReadFrom_expansion (nonzero : d.isZero = false) : d.isReadFrom d.expansion = true := by
  refine decide_eq_true (ofDecimal?_of_quotient (numerator_pos (d := d.magnitudeOf) nonzero) ?_)
  -- Fives in the numerator make a power of ten of the power of two in the denominator.
  have halves : 5 ^ (-d.exponent).toNat * d.denominator = 10 ^ (-d.exponent).toNat := by
    rw [denominator, Nat.pow_eq, ← Nat.mul_pow]
  have none : (-((-d.exponent).toNat : Int)).toNat = 0 := by omega
  have all : (-(-((-d.exponent).toNat : Int))).toNat = (-d.exponent).toNat := by omega
  change d.expansion.coefficient * 10 ^ d.expansion.exponent.toNat * d.denominator =
    d.numerator * 10 ^ (-d.expansion.exponent).toNat
  simp only [expansion, Nat.pow_eq, none, all, pow_zero, Nat.mul_one, Nat.mul_assoc, halves]

theorem isReadFrom_shortest (nonzero : d.isZero = false) : d.isReadFrom d.shortest = true := by
  rw [shortest]
  cases found : List.find? d.isReadFrom _ with
  | none => exact isReadFrom_expansion nonzero
  | some n => exact List.find?_some found

theorem coefficient_pos (nonzero : d.isZero = false) (read : d.isReadFrom n = true) :
    0 < n.coefficient := by
  refine Nat.pos_of_ne_zero fun zero => ?_
  have read := ofDecimal?_of_isReadFrom read
  rw [zero, ofDecimal?, if_pos (.inl rfl), Option.some.injEq] at read
  rw [← read] at nonzero
  cases nonzero

/-! ## How many digits it has -/

theorem roundQuotient_le (num den : Nat) : roundQuotient num den ≤ num / den + 1 := by
  simp only [roundQuotient]
  split <;> omega

/-- Where a double has this many digits before the place, it is below the next power of ten. -/
theorem numerator_lt_at_place {place : Int} {length : Nat}
    (last : d.decimalOrder - length + 1 = place) :
    d.numerator * 10 ^ (-place).toNat < 10 ^ length * (d.denominator * 10 ^ place.toNat) := by
  generalize order : decimalLength (d.numerator * 10 ^ 330 / d.denominator) = k
  have below : d.numerator * 10 ^ 330 < 10 ^ k * d.denominator := by
    rw [← order, ← Nat.div_lt_iff_lt_mul denominator_pos]
    exact lt_pow_decimalLength
  have exponents : k + (-place).toNat = length + place.toNat + 330 := by
    simp only [decimalOrder, Nat.pow_eq, order] at last
    omega
  -- The order of magnitude was counted with 330 digits more.
  refine Nat.lt_of_mul_lt_mul_right (a := 10 ^ 330) ?_
  calc d.numerator * 10 ^ (-place).toNat * 10 ^ 330
      = d.numerator * 10 ^ 330 * 10 ^ (-place).toNat := by rw [Nat.mul_right_comm]
    _ < 10 ^ k * d.denominator * 10 ^ (-place).toNat :=
      Nat.mul_lt_mul_of_pos_right below (by positivity)
    _ = d.denominator * 10 ^ (k + (-place).toNat) := by
      rw [pow_add]
      ac_rfl
    _ = 10 ^ length * (d.denominator * 10 ^ place.toNat) * 10 ^ 330 := by
      rw [exponents, pow_add, pow_add]
      ac_rfl

theorem coefficient_le_of_mem_neighbours {length : Nat} (mem : n ∈ d.neighbours length) :
    n.coefficient ≤ 10 ^ length := by
  generalize last : d.decimalOrder - length + 1 = place
  have below := numerator_lt_at_place last
  rw [← Nat.div_lt_iff_lt_mul (Nat.mul_pos denominator_pos (by positivity))] at below
  simp only [neighbours, last, Nat.pow_eq, List.mem_cons, List.not_mem_nil, or_false] at mem
  generalize d.numerator * 10 ^ (-place).toNat = num at below mem
  generalize d.denominator * 10 ^ place.toNat = den at below mem
  have near := roundQuotient_le num den
  obtain rfl | rfl := mem
  · exact near.trans below
  · dsimp only
    split <;> omega

/-- The digits that one half to the power of 1074 leaves a significand. -/
theorem expansion_lt (d : Double) : d.expansion.coefficient < 10 ^ 767 := by
  -- Either the double is a whole number, or the fives are as many as the halves.
  obtain whole | fraction := Int.le_total 0 d.exponent
  · have unscaled : (-d.exponent).toNat = 0 := by omega
    calc d.expansion.coefficient = d.numerator := by
          simp only [expansion, Nat.pow_eq, unscaled, pow_zero, Nat.mul_one]
      _ < 2 ^ 1024 := d.numerator_lt
      _ < 10 ^ 767 := by decide +kernel
  · have unscaled : d.exponent.toNat = 0 := by omega
    have place : (-d.exponent).toNat ≤ 1074 :=
      Int.toNat_le.mpr (Int.neg_le_of_neg_le d.le_exponent)
    calc d.expansion.coefficient = d.significand * 5 ^ (-d.exponent).toNat := by
          simp only [expansion, numerator, Nat.pow_eq, unscaled, pow_zero, Nat.mul_one]
      _ ≤ d.significand * 5 ^ 1074 := by gcongr; decide
      _ ≤ 2 * perExponent * 5 ^ 1074 := by
        gcongr
        exact d.significand_lt.le
      _ < 10 ^ 767 := by decide +kernel

theorem decimalLength_shortest_le (d : Double) : decimalLength d.shortest.coefficient ≤ 767 := by
  rw [decimalLength_le_iff (by decide), shortest]
  cases found : List.find? d.isReadFrom _ with
  | none => exact d.expansion_lt
  | some n =>
    -- Only lengths far below the bound are tried.
    obtain ⟨length, few, mem⟩ := List.mem_flatMap.mp (List.mem_of_find?_eq_some found)
    have most : length + 1 < 767 := by
      have := List.mem_range.mp few
      omega
    exact (coefficient_le_of_mem_neighbours mem).trans_lt (pow_lt_pow_right₀ (by decide) most)

end Double

end LootScript
