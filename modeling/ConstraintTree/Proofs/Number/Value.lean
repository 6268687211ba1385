import ConstraintTree.Number.Binary64

namespace ConstraintTree
namespace Binary64

def negativeZero : Binary64 := ⟨0x8000000000000000⟩

/-- The value in units of the smallest positive number. That of an infinity lies beyond all finite ones,
and that of not-a-number does not count. -/
def value (number : Binary64) : Int :=
  if number.isNegative then -number.magnitude else number.magnitude

theorem ext_fields {left right : Binary64} (sign : left.isNegative = right.isNegative)
    (exponent : left.biasedExponent = right.biasedExponent)
    (fraction : left.fraction = right.fraction) : left = right := by
  have bound := left.bits.toNat_lt
  have bound' := right.bits.toNat_lt
  rw [isNegative, isNegative, decide_eq_decide] at sign
  simp only [biasedExponent, Binary64.fraction] at exponent fraction
  -- The widths of the fields as numerals, for the arithmetic.
  change 9223372036854775808 ≤ _ ↔ 9223372036854775808 ≤ _ at sign
  change _ / 4503599627370496 % 2048 = _ / 4503599627370496 % 2048 at exponent
  change _ % 4503599627370496 = _ % 4503599627370496 at fraction
  have same : left.bits.toNat = right.bits.toNat := by omega
  exact congrArg mk (UInt64.toNat_inj.mp same)

theorem isZero_iff {number : Binary64} :
    number.isZero = true ↔ number.biasedExponent = 0 ∧ number.fraction = 0 := by
  simp [isZero]

/-- The zeros are the two patterns without exponent and fraction. -/
theorem isZero_cases {number : Binary64} (zero : number.isZero = true) :
    number = ⟨0⟩ ∨ number = negativeZero := by
  obtain ⟨exponent, fraction⟩ := isZero_iff.mp zero
  cases sign : number.isNegative with
  | false => exact .inl (ext_fields sign exponent fraction)
  | true => exact .inr (ext_fields sign exponent fraction)

private theorem fraction_lt (number : Binary64) :
    number.fraction < Nat.pow 2 52 := Nat.mod_lt _ (by decide)

/-- Numbers of the least exponents lie below all others. -/
theorem magnitude_lt_of_exponent {left right : Binary64}
    (below : left.biasedExponent < right.biasedExponent) : left.magnitude < right.magnitude := by
  have normal : ¬right.biasedExponent = 0 := by omega
  have atLeast : Nat.pow 2 52 * right.spacing ≤ right.magnitude := by
    rw [magnitude, significand, if_neg normal]
    exact Nat.mul_le_mul_right _ (Nat.le_add_left ..)
  have small := left.fraction_lt
  refine Nat.lt_of_lt_of_le ?_ atLeast
  by_cases subnormal : left.biasedExponent = 0
  · have unit : left.spacing = 1 := by simp [spacing, subnormal]
    rw [magnitude, significand, if_pos subnormal, unit, Nat.mul_one]
    exact Nat.lt_of_lt_of_le small (Nat.le_mul_of_pos_right _ (Nat.two_pow_pos _))
  · have doubled : 2 * left.spacing ≤ right.spacing := by
      rw [spacing, spacing, Nat.mul_comm]
      have steps : left.biasedExponent - 1 + 1 ≤ right.biasedExponent - 1 := by omega
      exact Nat.pow_le_pow_right (by decide : 2 > 0) steps
    rw [magnitude, significand, if_neg subnormal]
    calc (left.fraction + Nat.pow 2 52) * left.spacing
        < (2 * Nat.pow 2 52) * left.spacing :=
          Nat.mul_lt_mul_of_pos_right (by omega) (Nat.two_pow_pos _)
      _ = Nat.pow 2 52 * (2 * left.spacing) := by rw [Nat.mul_comm 2, Nat.mul_assoc]
      _ ≤ Nat.pow 2 52 * right.spacing := Nat.mul_le_mul_left _ doubled

/-- Magnitude determines exponent and fraction. -/
theorem fields_of_magnitude {left right : Binary64} (same : left.magnitude = right.magnitude) :
    left.biasedExponent = right.biasedExponent ∧ left.fraction = right.fraction := by
  have exponent : left.biasedExponent = right.biasedExponent := by
    rcases Nat.lt_trichotomy left.biasedExponent right.biasedExponent with below | equal | above
    · exact absurd same (Nat.ne_of_lt (magnitude_lt_of_exponent below))
    · exact equal
    · exact absurd same.symm (Nat.ne_of_lt (magnitude_lt_of_exponent above))
  refine ⟨exponent, ?_⟩
  rw [magnitude, magnitude, spacing, spacing, exponent] at same
  have significands := Nat.eq_of_mul_eq_mul_right (Nat.two_pow_pos _) same
  rw [significand, significand, exponent] at significands
  split at significands
  · exact significands
  · exact Nat.add_right_cancel significands

private theorem isZero_of_magnitude {number : Binary64} (zero : number.magnitude = 0) :
    number.isZero = true := by
  have same : number.magnitude = magnitude ⟨0⟩ := zero
  exact isZero_iff.mpr (fields_of_magnitude same)

theorem value_eq_iff {left right : Binary64} :
    left.value = right.value ↔ left = right ∨ left.isZero = true ∧ right.isZero = true := by
  constructor
  · intro same
    have magnitudes : left.magnitude = right.magnitude := by
      rw [value, value] at same
      split at same <;> split at same <;> omega
    obtain ⟨exponent, fraction⟩ := fields_of_magnitude magnitudes
    by_cases sign : left.isNegative = right.isNegative
    · exact .inl (ext_fields sign exponent fraction)
    · right
      have zero : left.magnitude = 0 := by
        rw [value, value] at same
        split at same <;> split at same
        · simp_all
        · omega
        · omega
        · simp_all
      exact ⟨isZero_of_magnitude zero, isZero_of_magnitude (magnitudes ▸ zero)⟩
  · rintro (rfl | ⟨zero, zero'⟩)
    · rfl
    · rcases isZero_cases zero with rfl | rfl <;> rcases isZero_cases zero' with rfl | rfl <;> decide

/-- Agreement of numbers is equality of values, which not-a-number has none of. -/
theorem agrees_iff_value {left right : Binary64} :
    left.agrees right = true ↔
      left.isNaN = false ∧ right.isNaN = false ∧ left.value = right.value := by
  have bits : (left.bits == right.bits) = true ↔ left = right := by
    rw [beq_iff_eq]
    exact ⟨congrArg mk, congrArg Binary64.bits⟩
  rw [agrees, value_eq_iff, Bool.and_eq_true, Bool.and_eq_true, Bool.or_eq_true, bits]
  simp [and_assoc]

end Binary64
end ConstraintTree
