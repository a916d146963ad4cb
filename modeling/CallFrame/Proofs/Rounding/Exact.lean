import CallFrame.LongDouble.Pattern
import CallFrame.Proofs.Rounding.Decimal

/-!
# Rounding what needs no rounding

A magnitude that a shape holds is nearest to itself, so that rounding keeps it.
The exponent and the significand of the result are then known as well, because
a canonical number is written in one way only: a smaller exponent would need a
significand with too many bits.

A pair of doubles holds such a magnitude in its first part alone.
-/

namespace CallFrame

namespace Shape

variable {shape : Shape} {magnitude : ℚ}

/-! ## Canonical numbers -/

section Canonical

variable {exponent place : ℤ} {significand digits : ℕ}

/-- Of two canonical ways to write a number neither has the smaller exponent. -/
theorem Canonical.exponent_le
    (precise : 1 ≤ shape.precision)
    (left : shape.Canonical exponent significand)
    (right : shape.Canonical place digits)
    (same :
      significand * shape.unit exponent = digits * shape.unit place) :
    place ≤ exponent := by
  by_contra higher
  -- then the second number is normal, and the first needs a bit more than it has
  have above : exponent < place := not_le.mp higher
  have normal : place ≠ shape.minExponent :=
    (left.minExponent_le.trans_lt above).ne'
  have leading : 2 ^ (shape.precision - 1) ≤ digits :=
    right.leading.resolve_right normal
  have scaled : significand = digits * 2 ^ (place - exponent).toNat := by
    rw [shape.unit_mul_two_pow above.le, ← mul_assoc] at same
    exact_mod_cast mul_right_cancel₀ (shape.unit_pos exponent).ne' same
  have overflow : 2 ^ shape.precision ≤ significand :=
    calc 2 ^ shape.precision
        = 2 ^ (shape.precision - 1) * 2 := (pow_sub_one_mul (by omega) 2).symm
      _ ≤ digits * 2 ^ (place - exponent).toNat :=
          Nat.mul_le_mul leading (Nat.le_self_pow (by omega) 2)
      _ = significand := scaled.symm
  exact absurd left.significand_lt (Nat.not_lt.mpr overflow)

/-- A canonical number is written in one way only. -/
theorem Canonical.unique
    (precise : 1 ≤ shape.precision)
    (left : shape.Canonical exponent significand)
    (right : shape.Canonical place digits)
    (same :
      significand * shape.unit exponent = digits * shape.unit place) :
    exponent = place ∧ significand = digits := by
  have equal : exponent = place :=
    le_antisymm (right.exponent_le precise left same.symm)
      (left.exponent_le precise right same)
  subst equal
  have cancelled := mul_right_cancel₀ (shape.unit_pos exponent).ne' same
  exact ⟨rfl, by exact_mod_cast cancelled⟩

end Canonical

/-- A number of a shape is the nearest one to itself. -/
theorem IsNearest.eq_of_holds
    {value : ℚ}
    {significand : ℕ}
    (nearest : shape.IsNearest magnitude value significand)
    (held : shape.Holds magnitude) :
    value = magnitude := by
  have close := nearest.nearest magnitude held
  rw [sub_self, abs_zero] at close
  exact (sub_eq_zero.mp (abs_nonpos_iff.mp close)).symm

end Shape

/-- A canonical number is rounded to itself, for which zero has two forms. -/
theorem Rounded.Correct.eq_of_canonical
    {shape : Shape}
    {rounded : Rounded}
    {exponent : ℤ}
    {significand : ℕ}
    (precise : 1 ≤ shape.precision)
    (canonical : shape.Canonical exponent significand)
    (correct : rounded.Correct shape (significand * shape.unit exponent)) :
    rounded = .finite exponent significand ∨
      rounded = .zero ∧ significand = 0 := by
  cases rounded with
  | zero =>
      have none := correct.2.eq_of_holds canonical.holds
      have nonzero := (shape.unit_pos exponent).ne'
      exact Or.inr
        ⟨rfl, by exact_mod_cast (mul_eq_zero.mp none.symm).resolve_right nonzero⟩
  | finite place digits =>
      obtain ⟨-, written, nearest⟩ := correct
      obtain ⟨rfl, rfl⟩ :=
        written.unique precise canonical (nearest.eq_of_holds canonical.holds)
      exact Or.inl rfl
  | infinite => exact absurd canonical.lt_overflowBound (not_lt.mpr correct)

/-! ## Nothing left over -/

namespace Ratio

theorem value_ofBinary (mantissa : ℕ) (exponent : ℤ) :
    (ofBinary mantissa exponent).value = mantissa * 2 ^ exponent := by
  rw [ofBinary, two_zpow_eq_div]
  by_cases up : 0 ≤ exponent
  · have none : (-exponent).toNat = 0 := Int.toNat_eq_zero.mpr (by omega)
    rw [if_pos up, value, ofNat, none, Nat.shiftLeft_eq]
    push_cast
    ring
  · have none : exponent.toNat = 0 := Int.toNat_eq_zero.mpr (by omega)
    rw [if_neg up, value, none]
    dsimp only
    rw [Nat.one_shiftLeft]
    push_cast
    ring

theorem isZero_iff (ratio : Ratio) :
    ratio.isZero = true ↔ ratio.value = 0 := by
  rw [isZero, beq_iff_eq, value, div_eq_zero_iff,
    or_iff_left ratio.denominator_pos.ne']
  exact_mod_cast Iff.rfl

theorem isBelow_iff (left right : Ratio) :
    left.isBelow right = true ↔ left.value < right.value := by
  rw [isBelow, decide_eq_true_iff, value, value,
    div_lt_div_iff₀ left.denominator_pos right.denominator_pos]
  exact_mod_cast Iff.rfl

/-- One of the two differences is zero, and the other one is the distance. -/
theorem value_distance (left right : Ratio) :
    (left.distance right).value = |left.value - right.value| := by
  have leftPos := left.denominator_pos
  have rightPos := right.denominator_pos
  have crossed :
      left.value - right.value =
        ((left.numerator * right.denominator : ℕ) -
            (right.numerator * left.denominator : ℕ) : ℚ) /
          (left.denominator * right.denominator) := by
    rw [value, value, div_sub_div _ _ leftPos.ne' rightPos.ne']
    push_cast
    ring
  rw [crossed, abs_div, abs_of_pos (mul_pos leftPos rightPos), value, distance]
  push_cast
  congr 1
  rcases le_total (left.numerator * right.denominator)
    (right.numerator * left.denominator) with le | le
  · have ordered :
        (left.numerator : ℚ) * right.denominator ≤
          right.numerator * left.denominator := by
      exact_mod_cast le
    rw [Nat.sub_eq_zero_of_le le, abs_of_nonpos (sub_nonpos.mpr ordered)]
    push_cast [le]
    ring
  · have ordered :
        (right.numerator : ℚ) * left.denominator ≤
          left.numerator * right.denominator := by
      exact_mod_cast le
    rw [Nat.sub_eq_zero_of_le le, abs_of_nonneg (sub_nonneg.mpr ordered)]
    push_cast [le]
    ring

end Ratio

/-- The second part of a pair is zero if the first one holds the magnitude. -/
theorem doublePairOfDecimal_of_holds
    {decimal : Decimal}
    {value : ℚ}
    (counted : decimal.Counted)
    (denotes : decimal.Denotes value)
    (held : Shape.binary64.Holds value) :
    doublePairOfDecimal decimal =
      ⟨doubleOfRounded decimal.negative (decimal.round .binary64), 0⟩ := by
  have correct :=
    Decimal.round_correct counted denotes Shape.supported_binary64
  rw [doublePairOfDecimal]
  rw [Decimal.round] at correct ⊢
  cases kept : decimal.magnitude with
  | none => rfl
  | some ratio =>
      rw [kept] at correct
      dsimp only at correct ⊢
      cases rounds : ratio.round .binary64 with
      | zero => rfl
      | infinite => rfl
      | finite exponent significand =>
          rw [rounds] at correct
          have whole : significand * Shape.binary64.unit exponent = value :=
            correct.2.2.eq_of_holds held
          have same :
              ratio.value = (Ratio.ofBinary significand (exponent - 52)).value := by
            rw [Decimal.value_of_round_finite counted denotes kept rounds,
              Ratio.value_ofBinary, ← whole]
            rfl
          dsimp only
          have none :
              (ratio.distance
                (.ofBinary significand (exponent - 52))).isZero = true := by
            rw [Ratio.isZero_iff, Ratio.value_distance, same, sub_self, abs_zero]
          rw [if_pos none]

end CallFrame
