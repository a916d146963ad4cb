import CallFrame.Align.Lemmas
import Mathlib

/-!
# Rounding up to a power of two

For a power of two, `alignUp` is the least multiple of the alignment which is
not below the value.  The laws that frames rely on follow from that
characterisation: rounding up is monotone, leaves multiples alone and commutes
with moving the value by a multiple.

Powers of two are ordered by divisibility, so that an offset which is aligned
for the wider of two alignments is aligned for both of them.
-/

namespace CallFrame

variable {value alignment : Nat}

/-! ## The least multiple that is not below -/

/-- A power of two divides what is rounded up to it. -/
theorem dvd_alignUp (power : alignment.isPowerOfTwo) :
    alignment ∣ alignUp value alignment := by
  obtain ⟨exponent, rfl⟩ := power
  rw [alignUp_two_pow]
  exact Nat.dvd_mul_left _ _

/-- No multiple of the alignment lies between the value and its rounding. -/
theorem alignUp_le_of_dvd
    {multiple : Nat}
    (power : alignment.isPowerOfTwo)
    (aligned : alignment ∣ multiple)
    (above : value ≤ multiple) :
    alignUp value alignment ≤ multiple := by
  obtain ⟨exponent, rfl⟩ := power
  obtain ⟨factor, rfl⟩ := aligned
  have positive : 0 < 2 ^ exponent := Nat.two_pow_pos exponent
  rw [alignUp_two_pow, Nat.mul_comm]
  apply Nat.mul_le_mul_left
  apply Nat.le_of_lt_succ
  rw [Nat.div_lt_iff_lt_mul positive, Nat.succ_mul, Nat.mul_comm]
  omega

theorem isLeast_alignUp
    (power : alignment.isPowerOfTwo)
    (value : Nat) :
    IsLeast {multiple | value ≤ multiple ∧ alignment ∣ multiple}
      (alignUp value alignment) :=
  ⟨⟨le_alignUp _ _, dvd_alignUp power⟩,
    fun _ ⟨above, aligned⟩ => alignUp_le_of_dvd power aligned above⟩

/-- Rounding up moves a value by less than the alignment. -/
theorem alignUp_le_add
    (power : alignment.isPowerOfTwo)
    (value : Nat) :
    alignUp value alignment ≤ value + (alignment - 1) := by
  obtain ⟨exponent, rfl⟩ := power
  rw [alignUp_two_pow]
  exact Nat.div_mul_le_self _ _

/-! ## Laws that follow -/

/-- A multiple of the alignment is not moved. -/
theorem alignUp_of_dvd
    (power : alignment.isPowerOfTwo)
    (aligned : alignment ∣ value) :
    alignUp value alignment = value :=
  Nat.le_antisymm
    (alignUp_le_of_dvd power aligned (Nat.le_refl value))
    (le_alignUp _ _)

theorem alignUp_mono
    {larger : Nat}
    (power : alignment.isPowerOfTwo)
    (le : value ≤ larger) :
    alignUp value alignment ≤ alignUp larger alignment :=
  alignUp_le_of_dvd power (dvd_alignUp power)
    (Nat.le_trans le (le_alignUp _ _))

/-- Behind an aligned start, rounding the end is rounding the size. -/
theorem alignUp_add_of_dvd
    {start size : Nat}
    (power : alignment.isPowerOfTwo)
    (aligned : alignment ∣ start) :
    alignUp (start + size) alignment = start + alignUp size alignment := by
  apply Nat.le_antisymm
  · exact alignUp_le_of_dvd power
      ((Nat.dvd_add_right aligned).mpr (dvd_alignUp power))
      (Nat.add_le_add_left (le_alignUp _ _) start)
  · have start_le : start ≤ alignUp (start + size) alignment :=
      Nat.le_trans (Nat.le_add_right start size) (le_alignUp _ _)
    have rounded :
        alignUp size alignment ≤ alignUp (start + size) alignment - start := by
      apply alignUp_le_of_dvd power
      · exact Nat.dvd_sub (dvd_alignUp power) aligned
      · exact Nat.le_sub_of_add_le' (le_alignUp _ _)
    omega

/-! ## Two powers of two -/

theorem isPowerOfTwo_max
    {left right : Nat}
    (leftPower : left.isPowerOfTwo)
    (rightPower : right.isPowerOfTwo) :
    (max left right).isPowerOfTwo := by
  rcases max_choice left right with equal | equal <;> rw [equal] <;> assumption

/-- The smaller of two powers of two divides the larger one. -/
theorem dvd_of_isPowerOfTwo_of_le
    {small large : Nat}
    (smallPower : small.isPowerOfTwo)
    (largePower : large.isPowerOfTwo)
    (le : small ≤ large) :
    small ∣ large := by
  obtain ⟨smallExponent, rfl⟩ := smallPower
  obtain ⟨largeExponent, rfl⟩ := largePower
  exact Nat.pow_dvd_pow 2 ((Nat.pow_le_pow_iff_right (by decide)).mp le)

/-- Rounding to one alignment and then to another is rounding to the wider one. -/
theorem alignUp_alignUp
    {other : Nat}
    (power : alignment.isPowerOfTwo)
    (otherPower : other.isPowerOfTwo) :
    alignUp (alignUp value alignment) other =
      alignUp value (max alignment other) := by
  rcases Nat.le_total alignment other with le | le
  · have divides := dvd_of_isPowerOfTwo_of_le power otherPower le
    rw [max_eq_right le]
    apply Nat.le_antisymm
    · apply alignUp_le_of_dvd otherPower (dvd_alignUp otherPower)
      exact alignUp_le_of_dvd power
        (Nat.dvd_trans divides (dvd_alignUp otherPower)) (le_alignUp _ _)
    · exact alignUp_mono otherPower (le_alignUp _ _)
  · have divides := dvd_of_isPowerOfTwo_of_le otherPower power le
    rw [max_eq_left le]
    exact alignUp_of_dvd otherPower
      (Nat.dvd_trans divides (dvd_alignUp power))

end CallFrame
