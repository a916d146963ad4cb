import CallFrame.LongDouble.Format
import CallFrame.LongDouble.Pattern
import CallFrame.Proofs.Rounding.Nearest

/-!
# Fields of wide numbers

Extended and quadruple precision share the range of their exponents.  A number
of either format is known by its sign, its exponent field and its significand
with the leading bit, whether the format stores that bit or leaves it out.

Three kinds of number are told apart by the exponent field.  It is zero for
zeros and subnormal numbers, whose leading bit is clear; it is greatest for the
infinities; and for all other numbers it is the exponent with the bias.
-/

namespace CallFrame

/-! ## Shapes with a bias -/

/--
A shape holds the significands of doubles, and its exponents are those of an
exponent field with a bias.
-/
structure Shape.Biased (shape : Shape) (bias : ℕ) : Prop where
  precise : 53 ≤ shape.precision
  bias_pos : 0 < bias
  minExponent_eq : shape.minExponent = 1 - (bias : ℤ)
  maxExponent_eq : shape.maxExponent = bias

theorem Shape.biased_binary64 : binary64.Biased 1023 := by
  constructor <;> decide

/-! ## Wide formats -/

/-- The formats that are wider than a double in range and precision. -/
inductive WideFormat where
  | extended
  | quadruple
deriving DecidableEq, Repr

namespace WideFormat

def format : WideFormat → LongDoubleFormat
  | extended => .x87
  | quadruple => .binary128

def shape : WideFormat → Shape
  | extended => .x87
  | quadruple => .binary128

theorem biased (wide : WideFormat) : wide.shape.Biased 16383 := by
  constructor <;> cases wide <;> decide

end WideFormat

/-- The fields of a number in a wide format. -/
@[ext]
structure WideFields where
  negative : Bool
  /-- The exponent field, with the bias of 16383. -/
  exponent : ℕ
  /-- The significand with its leading bit. -/
  significand : ℕ
deriving DecidableEq, Repr

namespace WideFields

/-- The exponent field of the infinities. -/
def infiniteExponent : ℕ :=
  0x7fff

/-- The magnitude of a finite number. -/
def magnitude (fields : WideFields) (shape : Shape) : ℚ :=
  fields.significand * shape.unit (max (fields.exponent : ℤ) 1 - 16383)

/--
The fields are those of a magnitude with a sign, rounded once to the nearest
number of the shape with ties to an even significand.
-/
structure Encodes
    (fields : WideFields)
    (shape : Shape)
    (negative : Bool)
    (magnitude : ℚ) :
    Prop where
  negative_eq : fields.negative = negative
  significand_lt : fields.significand < 2 ^ shape.precision
  leading_iff :
    2 ^ (shape.precision - 1) ≤ fields.significand ↔ fields.exponent ≠ 0
  infinite :
    shape.overflowBound ≤ magnitude →
      fields.exponent = infiniteExponent ∧
        fields.significand = 2 ^ (shape.precision - 1)
  finite :
    magnitude < shape.overflowBound →
      fields.exponent < infiniteExponent ∧
        shape.IsNearest magnitude (fields.magnitude shape) fields.significand

/-- The fields of a rounded magnitude with a sign. -/
def ofRounded
    (wide : WideFormat)
    (negative : Bool)
    (rounded : Rounded) :
    WideFields :=
  match rounded with
  | .zero => ⟨negative, 0, 0⟩
  | .infinite =>
    ⟨negative, infiniteExponent, 2 ^ (wide.shape.precision - 1)⟩
  | .finite exponent significand =>
    ⟨negative, exponentField wide.shape.precision 16383 exponent significand,
      significand⟩

end WideFields

/-! ## The exponent field -/

section ExponentField

variable
  {shape : Shape}
  {precision bias : ℕ}
  {exponent : ℤ}
  {significand : ℕ}

theorem exponentField_of_lt
    (small : significand < 2 ^ (precision - 1)) :
    exponentField precision bias exponent significand = 0 := by
  rw [exponentField, Nat.shiftRight_eq_div_pow, Nat.div_eq_of_lt small,
    if_pos rfl]

theorem exponentField_of_le
    (leading : 2 ^ (precision - 1) ≤ significand) :
    exponentField precision bias exponent significand =
      (exponent + bias).toNat := by
  have shifted : significand >>> (precision - 1) ≠ 0 := by
    rw [Nat.shiftRight_eq_div_pow]
    exact (Nat.div_pos leading (Nat.two_pow_pos _)).ne'
  rw [exponentField, if_neg shifted]

/-- The field of a finite number is that of its exponent. -/
theorem max_exponentField
    (biased : shape.Biased bias)
    (canonical : shape.Canonical exponent significand) :
    max (exponentField shape.precision bias exponent significand : ℤ) 1 =
      exponent + bias := by
  have low := canonical.minExponent_le
  rw [biased.minExponent_eq] at low
  by_cases leading : 2 ^ (shape.precision - 1) ≤ significand
  · rw [exponentField_of_le leading]
    omega
  · have least := canonical.leading.resolve_left leading
    rw [exponentField_of_lt (Nat.lt_of_not_le leading), least,
      biased.minExponent_eq]
    omega

/-- The greatest field is left to the infinities. -/
theorem exponentField_le
    (biased : shape.Biased bias)
    (canonical : shape.Canonical exponent significand) :
    exponentField shape.precision bias exponent significand ≤ 2 * bias := by
  have field := max_exponentField biased canonical
  have high := canonical.le_maxExponent
  rw [biased.maxExponent_eq] at high
  omega

theorem leading_iff_exponentField
    (biased : shape.Biased bias)
    (canonical : shape.Canonical exponent significand) :
    2 ^ (shape.precision - 1) ≤ significand ↔
      exponentField shape.precision bias exponent significand ≠ 0 := by
  have low := canonical.minExponent_le
  rw [biased.minExponent_eq] at low
  constructor
  · intro leading
    rw [exponentField_of_le leading]
    omega
  · intro normal
    by_contra small
    exact normal (exponentField_of_lt (Nat.lt_of_not_le small))

end ExponentField

/-! ## Correct fields -/

/-- The fields of a correctly rounded magnitude are those of its encoding. -/
theorem WideFields.encodes_ofRounded
    {wide : WideFormat}
    {rounded : Rounded}
    {magnitude : ℚ}
    (negative : Bool)
    (correct : rounded.Correct wide.shape magnitude) :
    (ofRounded wide negative rounded).Encodes wide.shape negative magnitude := by
  have biased := wide.biased
  have precise := biased.precise
  have leading :
      2 ^ (wide.shape.precision - 1) < 2 ^ wide.shape.precision :=
    Nat.pow_lt_pow_right one_lt_two (by omega)
  cases rounded with
  | zero =>
      obtain ⟨finite, nearest⟩ := correct
      constructor
      · rfl
      · exact Nat.two_pow_pos _
      · exact iff_of_false (Nat.not_le.mpr (Nat.two_pow_pos _)) (absurd rfl)
      · intro infinite
        exact absurd finite (not_lt.mpr infinite)
      · intro below
        refine ⟨Nat.zero_lt_succ _, ?_⟩
        rw [WideFields.magnitude, ofRounded, Nat.cast_zero, zero_mul]
        exact nearest
  | infinite =>
      constructor
      · rfl
      · exact leading
      · exact iff_of_true le_rfl (Nat.succ_ne_zero _)
      · intro infinite
        exact ⟨rfl, rfl⟩
      · intro finite
        exact absurd finite (not_lt.mpr correct)
  | finite exponent significand =>
      obtain ⟨finite, canonical, nearest⟩ := correct
      constructor
      · rfl
      · exact canonical.significand_lt
      · exact leading_iff_exponentField biased canonical
      · intro infinite
        exact absurd finite (not_lt.mpr infinite)
      · intro below
        refine ⟨Nat.lt_succ_of_le (exponentField_le biased canonical), ?_⟩
        rw [WideFields.magnitude, ofRounded]
        dsimp only
        have field := max_exponentField biased canonical
        rw [Nat.cast_ofNat] at field
        rw [field, add_sub_cancel_right]
        exact nearest

end CallFrame
