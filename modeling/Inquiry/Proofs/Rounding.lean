import Inquiry.Number.Double
import Mathlib.Tactic.Ring

/-!
# Whole numbers that a double holds

A double has fifty-three significant bits.  A whole number with more bits is
rounded to a multiple of a power of two, and what is left out is lost.  So of the
whole numbers with `53 + places` bits a double holds exactly the multiples of
two to the `places` (`units_ofNat_eq_iff`): rounding a quotient gives the
quotient back only if nothing is left over (`roundQuotient_mul_eq_iff`), and the
bits of the rounded quotient are read as that quotient again, also where rounding
carries into one bit more (`units_ofMagnitude`).
-/

set_option autoImplicit false

namespace Inquiry.Double

/-! ## Rounded quotients -/

/-- A rounded quotient is the quotient or one more. -/
theorem roundQuotient_bounds (numerator divisor : Nat) :
    numerator / divisor ≤ roundQuotient numerator divisor ∧
      roundQuotient numerator divisor ≤ numerator / divisor + 1 := by
  have bit : numerator / divisor % 2 < 2 := Nat.mod_lt _ Nat.two_pos
  simp only [roundQuotient]
  split
  · omega
  · split <;> omega

/-- A factor of both numbers does not matter to a rounded quotient. -/
theorem roundQuotient_mul_right (numerator divisor : Nat) {factor : Nat} (positive : 0 < factor) :
    roundQuotient (numerator * factor) (divisor * factor) = roundQuotient numerator divisor := by
  have twice : 2 * (numerator % divisor * factor) = 2 * (numerator % divisor) * factor :=
    (Nat.mul_assoc ..).symm
  simp only [roundQuotient, Nat.mul_div_mul_right _ _ positive, Nat.mul_mod_mul_right, twice,
    Nat.mul_lt_mul_right positive]

/-- A rounded quotient gives the number back exactly when nothing is left over. -/
theorem roundQuotient_mul_eq_iff {numerator divisor : Nat} (positive : 0 < divisor) :
    roundQuotient numerator divisor * divisor = numerator ↔ divisor ∣ numerator := by
  constructor
  · intro same
    exact ⟨_, (same.symm.trans (Nat.mul_comm ..))⟩
  · rintro ⟨quotient, rfl⟩
    rw [roundQuotient, Nat.mul_mod_right, Nat.mul_zero, if_pos positive,
      Nat.mul_div_cancel_left _ positive, Nat.mul_comm]

/-! ## The bits of a rounded number -/

section

variable {magnitude : Nat} (small : magnitude < signBit)

include small

/-- The bits of a magnitude that leaves the sign bit free. -/
theorem toNat_bits_ofMagnitude : (ofMagnitude false magnitude).bits.toNat = magnitude := by
  have fits : magnitude < 2 ^ 64 := small.trans (by decide)
  show magnitude % 2 ^ 64 = magnitude
  exact Nat.mod_eq_of_lt fits

theorem magnitude_ofMagnitude : (ofMagnitude false magnitude).magnitude = magnitude := by
  rw [Double.magnitude, toNat_bits_ofMagnitude small, Nat.mod_eq_of_lt small]

theorem isNegative_ofMagnitude : (ofMagnitude false magnitude).isNegative = false := by
  apply decide_eq_false
  rw [toNat_bits_ofMagnitude small]
  exact Nat.not_le_of_lt small

end

section

variable {scale significand : Nat} (fits : scale ≤ 2000) (low : fractionLimit ≤ significand)
  (high : significand ≤ 2 * fractionLimit)

include fits high

theorem magnitude_lt_infinityBits : scale * fractionLimit + significand < infinityBits := by
  simp only [fractionLimit, infinityBits] at *
  omega

theorem isFinite_ofMagnitude :
    (ofMagnitude false (scale * fractionLimit + significand)).isFinite = true := by
  have finite := magnitude_lt_infinityBits fits high
  apply decide_eq_true
  rwa [magnitude_ofMagnitude (finite.trans (by decide))]

include low

/-- A scale and a significand of fifty-three bits are read off the bits again.  The first bit of
the significand adds one to the field of the exponent, and a significand with one bit more adds
two, so nothing has to be carried. -/
theorem units_ofMagnitude :
    (ofMagnitude false (scale * fractionLimit + significand)).units =
      (significand * 2 ^ scale : Nat) := by
  have small : scale * fractionLimit + significand < signBit :=
    (magnitude_lt_infinityBits fits high).trans (by decide)
  have isMagnitude := magnitude_ofMagnitude small
  rw [units, isNegative_ofMagnitude small, if_neg Bool.false_ne_true, Int.natCast_inj]
  rcases Nat.lt_or_eq_of_le high with notCarried | rfl
  · have isField :
        (ofMagnitude false (scale * fractionLimit + significand)).field = scale + 1 := by
      rw [field, isMagnitude]
      simp only [fractionLimit] at *
      omega
    have isSignificand :
        (scale * fractionLimit + significand) % fractionLimit + fractionLimit = significand := by
      simp only [fractionLimit] at *
      omega
    rw [numerator, Double.significand, Double.scale, isField, isMagnitude,
      if_neg (Nat.succ_ne_zero _), isSignificand]
    rfl
  · have isField :
        (ofMagnitude false (scale * fractionLimit + 2 * fractionLimit)).field = scale + 2 := by
      rw [field, isMagnitude]
      simp only [fractionLimit] at *
      omega
    have isSignificand : (scale * fractionLimit + 2 * fractionLimit) % fractionLimit = 0 := by
      simp only [fractionLimit] at *
      omega
    rw [numerator, Double.significand, Double.scale, isField, isMagnitude,
      if_neg (Nat.succ_ne_zero _), isSignificand]
    show (0 + fractionLimit) * 2 ^ (scale + 1) = _
    ring

end

/-! ## Whole numbers -/

/-- The power of two in the denominator of all doubles. -/
def leastPlaces : Nat := 1074

theorem denominator_eq : denominator = 2 ^ leastPlaces := by
  have isPlaces : 1074 = leastPlaces := rfl
  unfold denominator
  rw [isPlaces, Nat.pow_eq]

theorem log2_mul_two_pow {value bits : Nat} (low : 2 ^ bits ≤ value)
    (high : value < 2 ^ (bits + 1)) (places : Nat) : (value * 2 ^ places).log2 = bits + places := by
  have positive : 0 < 2 ^ places := Nat.two_pow_pos places
  have notZero : value * 2 ^ places ≠ 0 :=
    Nat.mul_ne_zero (Nat.ne_of_gt ((Nat.two_pow_pos bits).trans_le low)) (Nat.ne_of_gt positive)
  rw [Nat.log2_eq_iff notZero, Nat.add_right_comm, Nat.pow_add, Nat.pow_add (m := bits + 1)]
  exact ⟨Nat.mul_le_mul_right _ low, Nat.mul_lt_mul_of_pos_right high positive⟩

section

variable {value places : Nat} (low : 2 ^ (52 + places) ≤ value)
  (high : value < 2 ^ (52 + places + 1))

include low high

theorem scaleOf_natural : scaleOf value 1 = places + leastPlaces := by
  rw [scaleOf, Nat.div_one, denominator_eq, log2_mul_two_pow low high]
  omega

/-- The rounded quotient has fifty-three bits, or is the least number that has more. -/
theorem roundQuotient_natural :
    fractionLimit ≤ roundQuotient value (2 ^ places) ∧
      roundQuotient value (2 ^ places) ≤ 2 * fractionLimit := by
  obtain ⟨least, most⟩ := roundQuotient_bounds value (2 ^ places)
  have positive : 0 < 2 ^ places := Nat.two_pow_pos places
  rw [Nat.pow_add, ← Nat.le_div_iff_mul_le positive] at low
  rw [Nat.add_right_comm, Nat.pow_add, ← Nat.div_lt_iff_lt_mul positive] at high
  have isLimit : fractionLimit = 2 ^ 52 := rfl
  omega

theorem nearestMagnitude_natural (fits : places ≤ 900) :
    nearestMagnitude value 1 =
      (places + leastPlaces) * fractionLimit + roundQuotient value (2 ^ places) := by
  obtain ⟨-, most⟩ := roundQuotient_natural low high
  have isRounded : roundQuotient (value * denominator) (1 * Nat.pow 2 (places + leastPlaces)) =
      roundQuotient value (2 ^ places) := by
    rw [Nat.one_mul, Nat.pow_eq, denominator_eq, Nat.pow_add,
      roundQuotient_mul_right _ _ (Nat.two_pow_pos leastPlaces)]
  rw [nearestMagnitude, scaleOf_natural low high, isRounded]
  refine Nat.min_eq_left (magnitude_lt_infinityBits ?_ most).le
  simp only [leastPlaces]
  omega

/-- The double nearest to a whole number with `53 + places` bits is finite, and this is its
value. -/
theorem units_ofNat (fits : places ≤ 900) :
    (ofNat value).isFinite = true ∧
      (ofNat value).units =
        (roundQuotient value (2 ^ places) * 2 ^ (places + leastPlaces) : Nat) := by
  obtain ⟨least, most⟩ := roundQuotient_natural low high
  have scaleFits : places + leastPlaces ≤ 2000 := by
    simp only [leastPlaces]
    omega
  rw [ofNat, ofFraction, nearestMagnitude_natural low high fits]
  exact ⟨isFinite_ofMagnitude scaleFits most, units_ofMagnitude scaleFits least most⟩

/-- **A double holds a whole number with `53 + places` bits exactly when it is a multiple of two
to the `places`.** -/
theorem units_ofNat_eq_iff (fits : places ≤ 900) :
    (ofNat value).units = (value * denominator : Nat) ↔ 2 ^ places ∣ value := by
  rw [(units_ofNat low high fits).2, ← roundQuotient_mul_eq_iff (Nat.two_pow_pos places),
    Int.natCast_inj, denominator_eq, Nat.pow_add, ← Nat.mul_assoc]
  exact Nat.mul_left_inj (Nat.ne_of_gt (Nat.two_pow_pos leastPlaces))

end

theorem ofInt_natCast (value : Nat) : ofInt value = ofNat value := rfl

end Inquiry.Double
