import CallFrame.Binary.Rounding
import Mathlib

/-!
# What correct rounding is

The numbers of a shape that are finite and not negative are the products of a
significand below `2 ^ precision` and the unit in the last place of an exponent
in range.  A magnitude is rounded correctly if the result is the nearest of
them, and if it has an even significand whenever another number is equally near.
From the midpoint between the largest number and the next power of two on, the
result is infinite.

The unit in the last place splits the work in two.  Numbers whose exponent is at
least that of the result are whole multiples of its unit, so that among them the
nearest one is found by rounding a quotient to a whole number.  Numbers of a
smaller exponent are too small to matter.
-/

namespace CallFrame

namespace Shape

/-- The distance of neighbouring numbers at an exponent. -/
def unit (shape : Shape) (exponent : ℤ) : ℚ :=
  2 ^ (exponent - (shape.precision - 1))

/-- The finite numbers of a shape that are not negative. -/
def Holds (shape : Shape) (value : ℚ) : Prop :=
  ∃ (significand : ℕ) (exponent : ℤ),
    significand < 2 ^ shape.precision ∧
      shape.minExponent ≤ exponent ∧
      exponent ≤ shape.maxExponent ∧
      value = significand * shape.unit exponent

/-- The least magnitude that is rounded to infinity. -/
def overflowBound (shape : Shape) : ℚ :=
  (2 - 2 ^ (-(shape.precision : ℤ))) * 2 ^ shape.maxExponent

/-- A number with its significand is the one that a magnitude is rounded to. -/
structure IsNearest
    (shape : Shape)
    (magnitude value : ℚ)
    (significand : ℕ) :
    Prop where
  held : shape.Holds value
  nearest :
    ∀ other, shape.Holds other →
      |magnitude - value| ≤ |magnitude - other|
  even :
    ∀ other, shape.Holds other → other ≠ value →
      |magnitude - other| = |magnitude - value| → Even significand

/--
A number with its significand is the one that a magnitude is rounded to, for any
number of bits.  A shape of one bit has no even significand but zero, so that a
tie between two powers of two goes to the larger one, which is twice the other.
-/
structure RoundsTo
    (shape : Shape)
    (magnitude value : ℚ)
    (significand : ℕ) :
    Prop where
  held : shape.Holds value
  nearest :
    ∀ other, shape.Holds other →
      |magnitude - value| ≤ |magnitude - other|
  even :
    ∀ other, shape.Holds other → other ≠ value →
      |magnitude - other| = |magnitude - value| →
        Even significand ∨ shape.precision = 1 ∧ value = 2 * other

/-- An exponent and a significand as a number of the shape is written. -/
structure Canonical
    (shape : Shape)
    (exponent : ℤ)
    (significand : ℕ) :
    Prop where
  significand_lt : significand < 2 ^ shape.precision
  minExponent_le : shape.minExponent ≤ exponent
  le_maxExponent : exponent ≤ shape.maxExponent
  leading :
    2 ^ (shape.precision - 1) ≤ significand ∨ exponent = shape.minExponent

theorem IsNearest.roundsTo
    {shape : Shape}
    {magnitude value : ℚ}
    {significand : ℕ}
    (nearest : shape.IsNearest magnitude value significand) :
    shape.RoundsTo magnitude value significand where
  held := nearest.held
  nearest := nearest.nearest
  even other held different tie :=
    Or.inl (nearest.even other held different tie)

/-- From two bits on a tie always goes to an even significand. -/
theorem RoundsTo.isNearest
    {shape : Shape}
    {magnitude value : ℚ}
    {significand : ℕ}
    (rounds : shape.RoundsTo magnitude value significand)
    (wide : 2 ≤ shape.precision) :
    shape.IsNearest magnitude value significand where
  held := rounds.held
  nearest := rounds.nearest
  even other held different tie := by
    refine (rounds.even other held different tie).resolve_right ?_
    rintro ⟨single, -⟩
    omega

theorem unit_pos (shape : Shape) (exponent : ℤ) : 0 < shape.unit exponent := by
  rw [unit]
  positivity

theorem div_unit (shape : Shape) (exponent : ℤ) (magnitude : ℚ) :
    magnitude / shape.unit exponent =
      magnitude * 2 ^ ((shape.precision : ℤ) - 1 - exponent) := by
  rw [unit, div_eq_mul_inv, ← zpow_neg, neg_sub]

theorem unit_succ (shape : Shape) (exponent : ℤ) :
    shape.unit (exponent + 1) = 2 * shape.unit exponent := by
  rw [unit, unit, add_sub_right_comm, zpow_add_one₀ two_ne_zero, mul_comm]

theorem unit_mul_two_pow
    (shape : Shape)
    {low high : ℤ}
    (le : low ≤ high) :
    shape.unit high = 2 ^ (high - low).toNat * shape.unit low := by
  rw [unit, unit, ← zpow_natCast, Int.toNat_of_nonneg (by omega),
    ← zpow_add₀ two_ne_zero]
  congr 1
  ring

theorem two_pow_precision_mul_unit (shape : Shape) (exponent : ℤ) :
    2 ^ shape.precision * shape.unit exponent = 2 ^ (exponent + 1) := by
  rw [unit, ← zpow_natCast, ← zpow_add₀ two_ne_zero]
  congr 1
  ring

theorem two_pow_leading_mul_unit
    {shape : Shape}
    (precise : 1 ≤ shape.precision)
    (exponent : ℤ) :
    2 ^ (shape.precision - 1) * shape.unit exponent = 2 ^ exponent := by
  rw [unit, ← zpow_natCast, ← zpow_add₀ two_ne_zero]
  congr 1
  push_cast [precise]
  ring

theorem overflowBound_eq (shape : Shape) :
    shape.overflowBound =
      (2 ^ shape.precision - 1 / 2) * shape.unit shape.maxExponent := by
  have bits : (2 : ℚ) ^ shape.precision ≠ 0 := by positivity
  have top :
      (2 : ℚ) ^ shape.maxExponent =
        2 ^ shape.precision * shape.unit shape.maxExponent / 2 := by
    rw [two_pow_precision_mul_unit, zpow_add_one₀ two_ne_zero]
    ring
  rw [overflowBound, zpow_neg, zpow_natCast, top]
  field_simp

theorem overflowBound_le (shape : Shape) :
    shape.overflowBound ≤ 2 ^ (shape.maxExponent + 1) := by
  rw [overflowBound_eq, ← shape.two_pow_precision_mul_unit]
  apply mul_le_mul_of_nonneg_right _ (shape.unit_pos _).le
  linarith

theorem two_zpow_le_overflowBound (shape : Shape) :
    2 ^ shape.maxExponent ≤ shape.overflowBound := by
  have bits : (1 : ℚ) ≤ 2 ^ shape.precision := one_le_pow₀ one_le_two
  have positive := shape.unit_pos shape.maxExponent
  have top := shape.two_pow_precision_mul_unit shape.maxExponent
  rw [zpow_add_one₀ two_ne_zero] at top
  rw [overflowBound_eq]
  nlinarith

end Shape

/-! ## Nearest whole numbers -/

/-- A whole number is nearest to a quotient, and even if it is not alone. -/
structure IsNearestInteger (quotient : ℚ) (rounded : ℕ) : Prop where
  close : |quotient - rounded| ≤ 1 / 2
  even : |quotient - rounded| = 1 / 2 → Even rounded

namespace IsNearestInteger

variable {quotient : ℚ} {rounded : ℕ}

theorem of_lt_half
    {fraction : ℚ}
    (nonneg : 0 ≤ fraction)
    (small : fraction < 1 / 2) :
    IsNearestInteger (rounded + fraction) rounded := by
  constructor
  · rw [add_sub_cancel_left, abs_of_nonneg nonneg]
    exact small.le
  · rw [add_sub_cancel_left, abs_of_nonneg nonneg]
    intro tie
    exact absurd tie small.ne

theorem of_half_lt
    {fraction : ℚ}
    (large : 1 / 2 < fraction)
    (below : fraction < 1) :
    IsNearestInteger (rounded + fraction) (rounded + 1) := by
  constructor
  · push_cast
    rw [add_sub_add_left_eq_sub, abs_of_neg (sub_neg.mpr below)]
    linarith
  · push_cast
    rw [add_sub_add_left_eq_sub, abs_of_neg (sub_neg.mpr below)]
    intro tie
    linarith

theorem of_half (whole : ℕ) :
    IsNearestInteger (whole + 1 / 2) (whole + whole % 2) := by
  have even : Even (whole + whole % 2) := Nat.even_iff.mpr (by omega)
  constructor
  · push_cast
    rw [add_sub_add_left_eq_sub]
    rcases Nat.mod_two_eq_zero_or_one whole with parity | parity <;>
      rw [parity] <;> norm_num
  · intro tie
    exact even

theorem one_le_add
    (quotient : ℚ)
    {other : ℤ}
    (different : other ≠ rounded) :
    1 ≤ |quotient - rounded| + |quotient - other| := by
  have apart : (1 : ℚ) ≤ |(rounded : ℚ) - other| := by
    have distinct : (rounded : ℤ) - other ≠ 0 :=
      sub_ne_zero.mpr different.symm
    exact_mod_cast Int.one_le_abs distinct
  have split := abs_sub_le (rounded : ℚ) quotient other
  rw [abs_sub_comm (rounded : ℚ) quotient] at split
  exact apart.trans split

theorem le_abs
    (nearest : IsNearestInteger quotient rounded)
    (other : ℤ) :
    |quotient - rounded| ≤ |quotient - other| := by
  by_cases same : other = rounded
  · rw [same, Int.cast_natCast]
  · have apart := one_le_add quotient same
    have close := nearest.close
    linarith

theorem even_of_tie
    (nearest : IsNearestInteger quotient rounded)
    {other : ℤ}
    (different : other ≠ rounded)
    (tie : |quotient - other| = |quotient - rounded|) :
    Even rounded := by
  have apart := one_le_add quotient different
  apply nearest.even
  apply le_antisymm nearest.close
  linarith

/-- No two whole numbers are nearest to one quotient, since neighbours differ in parity. -/
theorem unique
    {other : ℕ}
    (left : IsNearestInteger quotient rounded)
    (right : IsNearestInteger quotient other) :
    rounded = other := by
  by_contra different
  have apart : 1 ≤ |quotient - rounded| + |quotient - other| := by
    have distinct : (other : ℤ) ≠ rounded := by exact_mod_cast Ne.symm different
    exact_mod_cast one_le_add quotient distinct
  have leftClose := left.close
  have rightClose := right.close
  have leftEven : Even rounded :=
    left.even (le_antisymm leftClose (by linarith))
  have rightEven : Even other :=
    right.even (le_antisymm rightClose (by linarith))
  rw [abs_le] at leftClose rightClose
  have upper : (rounded : ℚ) ≤ other + 1 := by linarith
  have lower : (other : ℚ) ≤ rounded + 1 := by linarith
  have rounded_le : rounded ≤ other + 1 := by exact_mod_cast upper
  have other_le : other ≤ rounded + 1 := by exact_mod_cast lower
  rw [Nat.even_iff] at leftEven rightEven
  omega

theorem le_of_le
    (nearest : IsNearestInteger quotient rounded)
    {bound : ℕ}
    (below : quotient ≤ bound) :
    rounded ≤ bound := by
  by_contra above
  have far : (bound : ℚ) + 1 ≤ rounded := by
    exact_mod_cast Nat.lt_of_not_le above
  have close := (abs_le.mp nearest.close).1
  linarith

theorem ge_of_ge
    (nearest : IsNearestInteger quotient rounded)
    {bound : ℕ}
    (above : bound ≤ quotient) :
    bound ≤ rounded := by
  by_contra below
  have far : (rounded : ℚ) + 1 ≤ bound := by
    exact_mod_cast Nat.lt_of_not_le below
  have close := (abs_le.mp nearest.close).2
  linarith

/-- Half below an even number, the even number is the nearest one. -/
theorem lt_of_lt_even
    (nearest : IsNearestInteger quotient rounded)
    {bound : ℕ}
    (even : Even bound)
    (small : rounded < bound) :
    quotient < bound - 1 / 2 := by
  by_contra above
  rw [not_lt] at above
  have short : (rounded : ℚ) + 1 ≤ bound := by exact_mod_cast small
  have close := (abs_le.mp nearest.close).2
  have last : (rounded : ℚ) + 1 = bound := by linarith
  have half : quotient - rounded = 1 / 2 := by linarith
  have tie : |quotient - rounded| = 1 / 2 := by
    rw [half]
    norm_num
  have odd : rounded + 1 = bound := by exact_mod_cast last
  rw [← odd, Nat.even_add_one] at even
  exact even (nearest.even tie)

end IsNearestInteger

/-! ## Nearest numbers of a shape -/

namespace Shape

variable {shape : Shape} {magnitude : ℚ} {exponent : ℤ} {rounded : ℕ}

theorem Canonical.holds
    {significand : ℕ}
    (canonical : shape.Canonical exponent significand) :
    shape.Holds (significand * shape.unit exponent) :=
  ⟨significand, exponent, canonical.significand_lt, canonical.minExponent_le,
    canonical.le_maxExponent, rfl⟩

/-- A canonical number is too small to be rounded to infinity. -/
theorem Canonical.lt_overflowBound
    {significand : ℕ}
    (canonical : shape.Canonical exponent significand) :
    significand * shape.unit exponent < shape.overflowBound := by
  have bits : (significand : ℚ) + 1 ≤ 2 ^ shape.precision := by
    exact_mod_cast canonical.significand_lt
  have top : shape.unit exponent ≤ shape.unit shape.maxExponent := by
    have inside := canonical.le_maxExponent
    exact zpow_le_zpow_right₀ one_le_two (by omega)
  rw [overflowBound_eq]
  calc (significand : ℚ) * shape.unit exponent
      ≤ significand * shape.unit shape.maxExponent := by gcongr
    _ < (2 ^ shape.precision - 1 / 2) * shape.unit shape.maxExponent := by
        apply mul_lt_mul_of_pos_right _ (shape.unit_pos _)
        linarith

theorem holds_zero
    (range : shape.minExponent ≤ shape.maxExponent) :
    shape.Holds 0 := by
  refine ⟨0, shape.minExponent, Nat.two_pow_pos _, le_rfl, range, ?_⟩
  rw [Nat.cast_zero, zero_mul]

theorem abs_sub_mul_unit
    (shape : Shape)
    (exponent : ℤ)
    (magnitude factor : ℚ) :
    |magnitude - factor * shape.unit exponent| =
      |magnitude / shape.unit exponent - factor| * shape.unit exponent := by
  have positive := shape.unit_pos exponent
  rw [← abs_of_pos positive, ← abs_mul, abs_of_pos positive, sub_mul,
    div_mul_cancel₀ _ positive.ne']

/-- A number is a whole multiple of a unit, or it is below the normal ones. -/
theorem Holds.multiple_or_lt
    {other : ℚ}
    (held : shape.Holds other)
    (exponent : ℤ) :
    (∃ factor : ℤ, other = factor * shape.unit exponent) ∨
      shape.minExponent < exponent ∧ other < 2 ^ exponent := by
  obtain ⟨significand, place, bound, above, -, rfl⟩ := held
  rcases le_or_gt exponent place with le | lt
  · left
    refine ⟨significand * 2 ^ (place - exponent).toNat, ?_⟩
    rw [shape.unit_mul_two_pow le]
    push_cast
    ring
  · right
    refine ⟨lt_of_le_of_lt above lt, ?_⟩
    have small : (significand : ℚ) < 2 ^ shape.precision := by
      exact_mod_cast bound
    calc (significand : ℚ) * shape.unit place
        < 2 ^ shape.precision * shape.unit place := by
          exact mul_lt_mul_of_pos_right small (shape.unit_pos place)
      _ = 2 ^ (place + 1) := shape.two_pow_precision_mul_unit place
      _ ≤ 2 ^ exponent := zpow_le_zpow_right₀ one_le_two lt

/-- A number below the normal ones is not as near as the nearest multiple. -/
theorem abs_sub_lt_of_lt
    (precise : 1 ≤ shape.precision)
    (nearest : IsNearestInteger (magnitude / shape.unit exponent) rounded)
    (above : 2 ^ exponent ≤ magnitude)
    {other : ℚ}
    (below : other < 2 ^ exponent) :
    |magnitude - rounded * shape.unit exponent| < |magnitude - other| := by
  have leading := two_pow_leading_mul_unit precise exponent
  have power := nearest.le_abs (2 ^ (shape.precision - 1))
  push_cast at power
  calc |magnitude - rounded * shape.unit exponent|
      = |magnitude / shape.unit exponent - rounded| * shape.unit exponent :=
        shape.abs_sub_mul_unit exponent magnitude rounded
    _ ≤ |magnitude / shape.unit exponent - 2 ^ (shape.precision - 1)| *
          shape.unit exponent :=
        mul_le_mul_of_nonneg_right power (shape.unit_pos exponent).le
    _ = |magnitude - 2 ^ exponent| := by
        rw [← shape.abs_sub_mul_unit, leading]
    _ = magnitude - 2 ^ exponent := abs_of_nonneg (sub_nonneg.mpr above)
    _ < magnitude - other := sub_lt_sub_left below magnitude
    _ ≤ |magnitude - other| := le_abs_self _

/--
The nearest multiple of the unit at an exponent is the nearest number, provided
that the magnitude is not below the normal numbers of that exponent.
-/
theorem isNearest_of_isNearestInteger
    (precise : 1 ≤ shape.precision)
    (nearest : IsNearestInteger (magnitude / shape.unit exponent) rounded)
    (above : shape.minExponent < exponent → 2 ^ exponent ≤ magnitude)
    {value : ℚ}
    {significand : ℕ}
    (held : shape.Holds value)
    (value_eq : value = rounded * shape.unit exponent)
    (even : Even rounded → Even significand) :
    shape.IsNearest magnitude value significand := by
  subst value_eq
  have positive := shape.unit_pos exponent
  constructor
  · exact held
  · intro other otherHeld
    rcases otherHeld.multiple_or_lt exponent with ⟨factor, rfl⟩ | ⟨low, below⟩
    · rw [abs_sub_mul_unit, abs_sub_mul_unit]
      exact mul_le_mul_of_nonneg_right (nearest.le_abs factor) positive.le
    · exact (abs_sub_lt_of_lt precise nearest (above low) below).le
  · intro other otherHeld different tie
    apply even
    rcases otherHeld.multiple_or_lt exponent with ⟨factor, rfl⟩ | ⟨low, below⟩
    · rw [abs_sub_mul_unit, abs_sub_mul_unit] at tie
      apply nearest.even_of_tie _ (mul_right_cancel₀ positive.ne' tie)
      rintro rfl
      exact different (by rw [Int.cast_natCast])
    · have strict := abs_sub_lt_of_lt precise nearest (above low) below
      exact absurd tie strict.ne'

end Shape

/-- A rounded magnitude is the correct one for a shape. -/
def Rounded.Correct
    (rounded : Rounded)
    (shape : Shape)
    (magnitude : ℚ) :
    Prop :=
  match rounded with
  | .infinite => shape.overflowBound ≤ magnitude
  | .zero => magnitude < shape.overflowBound ∧ shape.IsNearest magnitude 0 0
  | .finite exponent significand =>
    magnitude < shape.overflowBound ∧
      shape.Canonical exponent significand ∧
      shape.IsNearest magnitude (significand * shape.unit exponent) significand

/-- A magnitude of at most half the least number is rounded to zero. -/
theorem Rounded.correct_zero
    {shape : Shape}
    {magnitude : ℚ}
    (precise : 1 ≤ shape.precision)
    (range : shape.minExponent ≤ shape.maxExponent)
    (nonneg : 0 ≤ magnitude)
    (small : magnitude ≤ shape.unit shape.minExponent / 2) :
    Rounded.zero.Correct shape magnitude := by
  have positive := shape.unit_pos shape.minExponent
  have least : shape.unit shape.minExponent ≤ 2 ^ shape.maxExponent :=
    zpow_le_zpow_right₀ one_le_two (by omega)
  have bound := shape.two_zpow_le_overflowBound
  constructor
  · linarith
  · have rounded :
        IsNearestInteger (magnitude / shape.unit shape.minExponent) 0 := by
      constructor
      · rw [Nat.cast_zero, sub_zero, abs_of_nonneg (by positivity),
          div_le_iff₀ positive]
        linarith
      · intro tie
        exact Even.zero
    apply Shape.isNearest_of_isNearestInteger precise rounded
    · intro normal
      exact absurd normal (lt_irrefl _)
    · exact Shape.holds_zero range
    · rw [Nat.cast_zero, zero_mul]
    · exact id

end CallFrame
