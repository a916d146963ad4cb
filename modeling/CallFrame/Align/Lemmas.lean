import CallFrame.Align
import Mathlib

/-!
# Laws of alignment

For a power of two, rounding up is a division rounded upwards.  The law is
derived bit by bit from what clearing the low bits of a number does.

Rounding up never goes below the value, and this needs no power of two: clearing
the bits of a mask takes away at most the mask, which was added before.
-/

namespace CallFrame

/-- Clearing the low bits of a number is dividing them away. -/
theorem clearBits_two_pow (value exponent : Nat) :
    clearBits value (2 ^ exponent - 1) =
      value / 2 ^ exponent * 2 ^ exponent := by
  apply Nat.eq_of_testBit_eq
  intro index
  simp only [clearBits, Nat.testBit_xor, Nat.testBit_or,
    Nat.testBit_two_pow_sub_one, Nat.testBit_mul_two_pow,
    Nat.testBit_div_two_pow]
  by_cases low : index < exponent
  · simp [low, Nat.not_le.mpr low]
  · have high : exponent ≤ index := Nat.not_lt.mp low
    simp [low, high, Nat.sub_add_cancel high]

/-- Clearing the bits of a mask takes away at most the mask. -/
theorem le_clearBits_add (value mask : Nat) :
    value ≤ clearBits value mask + mask := by
  induction value using Nat.strong_induction_on generalizing mask with
  | _ value induction =>
      rcases Nat.eq_zero_or_pos value with rfl | positive
      · exact Nat.zero_le _
      · have upper := induction (value / 2) (by omega) (mask / 2)
        have half :
            clearBits value mask / 2 = clearBits (value / 2) (mask / 2) := by
          simp only [clearBits, Nat.or_div_two, Nat.xor_div_two]
        have low : value % 2 ≤ clearBits value mask % 2 + mask % 2 := by
          have kept :
              value % 2 = 1 → ¬ mask % 2 = 1 → clearBits value mask % 2 = 1 := by
            intro odd even
            rw [clearBits, Nat.xor_mod_two_eq_one, Nat.or_mod_two_eq_one]
            simp only [odd, even, true_or, iff_false, not_true_eq_false,
              not_false_eq_true]
          omega
        omega

/-- Rounding up does not go below the value. -/
theorem le_alignUp (value alignment : Nat) : value ≤ alignUp value alignment := by
  rw [alignUp]
  by_cases small : alignment ≤ 1
  · rw [if_pos small]
  · have cleared :=
      le_clearBits_add (value + (alignment - 1)) (alignment - 1)
    rw [if_neg small]
    omega

/-- For a power of two the rounding is a division rounded upwards. -/
theorem alignUp_two_pow (value exponent : Nat) :
    alignUp value (2 ^ exponent) =
      (value + (2 ^ exponent - 1)) / 2 ^ exponent * 2 ^ exponent := by
  by_cases small : 2 ^ exponent ≤ 1
  · have one : 2 ^ exponent = 1 :=
      Nat.le_antisymm small Nat.one_le_two_pow
    simp [one]
  · simp only [alignUp, small, if_false, clearBits_two_pow]

end CallFrame
