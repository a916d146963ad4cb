import CallFrame.Proofs.Rounding.Exact
import CallFrame.Proofs.Rounding.Text

/-!
# Fields of doubles

A finite double is a significand of at most 53 bits at the place that its
exponent field names; zeros and subnormal numbers stand at the place of the
smallest normal ones.  Every shape with the same bias and at least as many bits
holds it, and its exponent field can be read off again.

Widening moves the leading bit of a subnormal number to its place above the
fraction and lowers the exponent by as much, which leaves the magnitude as it
was.
-/

namespace CallFrame

/-! ## The unit of a double -/

/-- A more precise shape has the unit of a double behind more bits. -/
theorem Shape.two_pow_mul_unit
    {shape : Shape}
    (precise : 53 ≤ shape.precision)
    (exponent : ℤ) :
    2 ^ (shape.precision - 53) * shape.unit exponent =
      binary64.unit exponent := by
  rw [unit, unit, ← zpow_natCast, ← zpow_add₀ two_ne_zero]
  congr 1
  push_cast [precise]
  rw [binary64]
  ring

/-! ## The number that fields stand for -/

namespace BinaryFields

/-- The significand with its leading bit, which the exponent field tells. -/
def significand (fields : BinaryFields) : ℕ :=
  (if fields.exponent = 0 then 0 else 2 ^ 52) + fields.fraction

/-- The exponent, which the field of a subnormal number does not name. -/
def place (fields : BinaryFields) (bias : ℕ) : ℤ :=
  max (fields.exponent : ℤ) 1 - bias

/-- The magnitude of a finite number whose exponent field has a bias. -/
def magnitude (fields : BinaryFields) (bias : ℕ) : ℚ :=
  fields.significand * Shape.binary64.unit (fields.place bias)

/-- The fields are those of a finite number. -/
structure Finite (fields : BinaryFields) (bias : ℕ) : Prop where
  fraction_lt : fields.fraction < 2 ^ 52
  exponent_le : fields.exponent ≤ 2 * bias

section Finite

variable {fields : BinaryFields} {bias : ℕ} {shape : Shape}

theorem Finite.significand_lt (finite : fields.Finite bias) :
    fields.significand < 2 ^ 53 := by
  have fraction := finite.fraction_lt
  rw [significand]
  split_ifs <;> omega

theorem le_significand (normal : fields.exponent ≠ 0) :
    2 ^ 52 ≤ fields.significand := by
  rw [significand, if_neg normal]
  exact Nat.le_add_right _ _

theorem Finite.significand_lt_of_subnormal
    (finite : fields.Finite bias)
    (subnormal : fields.exponent = 0) :
    fields.significand < 2 ^ 52 := by
  rw [significand, if_pos subnormal, zero_add]
  exact finite.fraction_lt

theorem fields_eq_zero (zero : fields.significand = 0) :
    fields.exponent = 0 ∧ fields.fraction = 0 := by
  rw [significand] at zero
  split_ifs at zero with subnormal <;> omega

theorem Finite.significand_mod (finite : fields.Finite bias) :
    fields.significand % 2 ^ 52 = fields.fraction := by
  have fraction := finite.fraction_lt
  rw [significand]
  split_ifs <;> omega

theorem magnitude_eq
    (biased : shape.Biased bias)
    (fields : BinaryFields) :
    fields.magnitude bias =
      (fields.significand * 2 ^ (shape.precision - 53) : ℕ) *
        shape.unit (fields.place bias) := by
  rw [magnitude, ← Shape.two_pow_mul_unit biased.precise]
  push_cast
  ring

/-- The leading bit of the significand is that of the wider one. -/
theorem two_pow_leading_eq (biased : shape.Biased bias) :
    2 ^ (shape.precision - 1) = 2 ^ 52 * 2 ^ (shape.precision - 53) := by
  have precise := biased.precise
  rw [← pow_add]
  congr 1
  omega

/-- A finite number is a canonical number of every shape with its bias. -/
theorem Finite.canonical
    (finite : fields.Finite bias)
    (biased : shape.Biased bias) :
    shape.Canonical (fields.place bias)
      (fields.significand * 2 ^ (shape.precision - 53)) := by
  have range := finite.exponent_le
  have wide := biased.bias_pos
  have place : fields.place bias = max (fields.exponent : ℤ) 1 - bias := rfl
  have positive := Nat.two_pow_pos (shape.precision - 53)
  constructor
  · calc fields.significand * 2 ^ (shape.precision - 53)
        < 2 ^ 53 * 2 ^ (shape.precision - 53) :=
          Nat.mul_lt_mul_of_pos_right finite.significand_lt positive
      _ = 2 ^ shape.precision := pow_mul_pow_sub 2 biased.precise
  · rw [biased.minExponent_eq]
    omega
  · rw [biased.maxExponent_eq]
    omega
  · rw [two_pow_leading_eq biased, biased.minExponent_eq]
    by_cases subnormal : fields.exponent = 0
    · right
      omega
    · left
      exact Nat.mul_le_mul_right _ (le_significand subnormal)

/-- The exponent field is found again from the number. -/
theorem Finite.exponentField_eq
    (finite : fields.Finite bias)
    (biased : shape.Biased bias) :
    exponentField shape.precision bias (fields.place bias)
        (fields.significand * 2 ^ (shape.precision - 53)) =
      fields.exponent := by
  have leading := two_pow_leading_eq biased
  have positive := Nat.two_pow_pos (shape.precision - 53)
  by_cases subnormal : fields.exponent = 0
  · rw [exponentField_of_lt, subnormal]
    rw [leading]
    exact Nat.mul_lt_mul_of_pos_right
      (finite.significand_lt_of_subnormal subnormal) positive
  · rw [exponentField_of_le, place]
    · omega
    · rw [leading]
      exact Nat.mul_le_mul_right _ (le_significand subnormal)

/-- What is rounded to a finite number is the number itself. -/
theorem Finite.rounded_eq
    {rounded : Rounded}
    (finite : fields.Finite bias)
    (biased : shape.Biased bias)
    (correct : rounded.Correct shape (fields.magnitude bias)) :
    rounded =
        .finite (fields.place bias)
          (fields.significand * 2 ^ (shape.precision - 53)) ∨
      rounded = .zero ∧ fields.significand = 0 := by
  have precise := biased.precise
  rw [magnitude_eq biased] at correct
  rcases correct.eq_of_canonical (by omega) (finite.canonical biased) with
    written | ⟨rounded, zero⟩
  · exact Or.inl written
  · have positive := Nat.two_pow_pos (shape.precision - 53)
    exact Or.inr ⟨rounded, (Nat.mul_eq_zero.mp zero).resolve_right positive.ne'⟩

end Finite

/-! ## Widening -/

section Widen

variable {fields : BinaryFields}

theorem sign_widen (fields : BinaryFields) :
    fields.widen.sign = fields.sign := by
  rw [widen]
  split_ifs <;> rfl

theorem fraction_widen_lt (small : fields.fraction < 2 ^ 52) :
    fields.widen.fraction < 2 ^ 52 := by
  rw [widen]
  split_ifs
  · exact small
  · exact Nat.mod_lt _ (one_shiftLeft_pos 52)
  · exact small
  · exact small

/-- A fraction other than zero is shifted until its top bit is the leading one. -/
theorem fraction_shiftLeft
    {fraction : ℕ}
    (nonzero : fraction ≠ 0)
    (small : fraction < 2 ^ 52) :
    fraction.log2 < 52 ∧
      2 ^ 52 + (fraction <<< (52 - fraction.log2)) % (1 <<< 52) =
        fraction * 2 ^ (52 - fraction.log2) := by
  have top : fraction.log2 < 52 := (Nat.log2_lt nonzero).mpr small
  have low : 2 ^ 52 ≤ fraction * 2 ^ (52 - fraction.log2) :=
    calc 2 ^ 52
        = 2 ^ fraction.log2 * 2 ^ (52 - fraction.log2) :=
          (pow_mul_pow_sub 2 top.le).symm
      _ ≤ fraction * 2 ^ (52 - fraction.log2) :=
          Nat.mul_le_mul_right _ (Nat.log2_self_le nonzero)
  have high : fraction * 2 ^ (52 - fraction.log2) < 2 ^ 53 :=
    calc fraction * 2 ^ (52 - fraction.log2)
        < 2 ^ (fraction.log2 + 1) * 2 ^ (52 - fraction.log2) :=
          Nat.mul_lt_mul_of_pos_right Nat.lt_log2_self (Nat.two_pow_pos _)
      _ = 2 ^ 53 := by
          rw [← pow_add]
          congr 1
          omega
  rw [Nat.shiftLeft_eq, Nat.one_shiftLeft]
  exact ⟨top, by omega⟩

/--
Widening a number other than zero shifts its significand and lowers its exponent
by as much.
-/
theorem Finite.widen_cases
    (finite : fields.Finite 1023)
    (nonzero : fields.significand ≠ 0) :
    ∃ shift : ℕ,
      fields.widen.significand = fields.significand * 2 ^ shift ∧
        fields.widen.place 16383 = fields.place 1023 - shift := by
  have range := finite.exponent_le
  by_cases subnormal : fields.exponent = 0
  · -- the top bit of a subnormal number moves up to the leading place
    have fraction : fields.fraction ≠ 0 := by
      rw [significand, if_pos subnormal, zero_add] at nonzero
      exact nonzero
    obtain ⟨top, shifted⟩ := fraction_shiftLeft fraction finite.fraction_lt
    have moved :
        fields.widen =
          { fields with
            exponent := fields.fraction.log2 + (16383 - 1023) + 1 - 52
            fraction :=
              (fields.fraction <<< (52 - fields.fraction.log2)) %
                (1 <<< 52) } := by
      rw [widen, if_pos subnormal, if_neg fraction]
    have normal : fields.fraction.log2 + (16383 - 1023) + 1 - 52 ≠ 0 := by
      omega
    refine ⟨52 - fields.fraction.log2, ?_, ?_⟩
    · rw [moved, significand, significand, if_pos subnormal, zero_add,
        if_neg normal]
      exact shifted
    · rw [moved, place, place, subnormal]
      dsimp only
      omega
  · -- a normal number only changes its bias
    have special : fields.exponent ≠ 0x7ff := by
      omega
    have moved :
        fields.widen =
          { fields with exponent := fields.exponent + (16383 - 1023) } := by
      rw [widen, if_neg subnormal, if_neg special]
    have normal : fields.exponent + (16383 - 1023) ≠ 0 := by
      omega
    refine ⟨0, ?_, ?_⟩
    · rw [moved, significand, significand, if_neg subnormal, if_neg normal,
        pow_zero, mul_one]
    · rw [moved, place, place]
      dsimp only
      omega

theorem widen_of_zero (zero : fields.significand = 0) :
    fields.widen = fields := by
  obtain ⟨subnormal, fraction⟩ := fields_eq_zero zero
  rw [widen, if_pos subnormal, if_pos fraction]

/-- Widening keeps the magnitude. -/
theorem Finite.magnitude_widen (finite : fields.Finite 1023) :
    fields.widen.magnitude 16383 = fields.magnitude 1023 := by
  rw [magnitude, magnitude]
  by_cases zero : fields.significand = 0
  · rw [widen_of_zero zero, zero, Nat.cast_zero, zero_mul, zero_mul]
  · obtain ⟨shift, shifted, lowered⟩ := finite.widen_cases zero
    have distance :
        (fields.place 1023 - (fields.place 1023 - shift)).toNat = shift := by
      omega
    have units :=
      Shape.binary64.unit_mul_two_pow
        (sub_le_self (fields.place 1023) (Int.natCast_nonneg shift))
    rw [distance] at units
    rw [shifted, lowered, units]
    push_cast
    ring

theorem Finite.widen (finite : fields.Finite 1023) :
    fields.widen.Finite 16383 := by
  refine ⟨fraction_widen_lt finite.fraction_lt, ?_⟩
  by_cases zero : fields.significand = 0
  · have range := finite.exponent_le
    rw [widen_of_zero zero]
    omega
  · obtain ⟨shift, -, lowered⟩ := finite.widen_cases zero
    have range := finite.exponent_le
    rw [place, place] at lowered
    omega

end Widen

/-! ## Fields of a double -/

theorem ofDouble_bounds (pattern : UInt64) :
    (ofDouble pattern).sign < 2 ∧ (ofDouble pattern).fraction < 2 ^ 52 := by
  have word := pattern.toNat_lt
  rw [ofDouble]
  dsimp only
  rw [Nat.shiftRight_eq_div_pow, Nat.one_shiftLeft]
  omega

theorem finite_ofDouble
    {pattern : UInt64}
    (number : (ofDouble pattern).exponent ≠ 0x7ff) :
    (ofDouble pattern).Finite 1023 := by
  refine ⟨(ofDouble_bounds pattern).2, ?_⟩
  have field : (ofDouble pattern).exponent < 1 <<< 11 :=
    Nat.mod_lt _ (one_shiftLeft_pos 11)
  rw [Nat.one_shiftLeft] at field
  omega

/-- A pattern consists of its fields. -/
theorem toNat_eq (pattern : UInt64) :
    pattern.toNat =
      ((ofDouble pattern).sign <<< 11 + (ofDouble pattern).exponent) <<< 52 +
        (ofDouble pattern).fraction := by
  have word := pattern.toNat_lt
  rw [ofDouble]
  dsimp only
  rw [Nat.shiftLeft_eq, Nat.shiftLeft_eq, Nat.shiftRight_eq_div_pow,
    Nat.shiftRight_eq_div_pow, Nat.one_shiftLeft, Nat.one_shiftLeft]
  omega

end BinaryFields

end CallFrame
