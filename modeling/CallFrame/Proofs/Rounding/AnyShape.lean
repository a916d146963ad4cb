import CallFrame.Proofs.Rounding.Neighbours
import CallFrame.Proofs.Rounding.Ratio

/-!
# Rounding to any shape

The shapes of the four formats have 53 bits and more, but rounding makes sense
for every number of bits from one on.  A shape of a single bit is where the
general law and the usual one part: its normal numbers are the powers of two, all
of them with significand one, so that no neighbour of a tie is even.  There a
quotient that is rounded to the even number two carries into the next power of
two, and the tie goes up.  From two bits on every tie goes to an even significand,
and the general law is the usual one.

With that the result of rounding is known for every shape of at most 128 bits.
The bound on the bits keeps every significand inside the width of a machine
word, and so a significand that is too wide for it, which would count as
infinite, never comes up.
-/

namespace CallFrame

/-! ## A single bit -/

namespace Shape

variable {shape : Shape} {magnitude : ℚ} {exponent : ℤ}

/-- Two powers of two at the same distance: the upper one is twice the other. -/
theorem two_mul_unit_eq_of_tie
    (single : shape.precision = 1)
    (nearest : IsNearestInteger (magnitude / shape.unit exponent) 2)
    (above : shape.minExponent < exponent → 2 ^ exponent ≤ magnitude)
    (below : magnitude < 2 ^ (exponent + 1))
    {other : ℚ}
    (held : shape.Holds other)
    (different : other ≠ 2 * shape.unit exponent)
    (tie : |magnitude - other| = |magnitude - 2 * shape.unit exponent|) :
    2 * shape.unit exponent = 2 * other := by
  have positive := shape.unit_pos exponent
  rcases held.multiple_or_lt exponent with ⟨factor, rfl⟩ | ⟨low, small⟩
  · have short : magnitude / shape.unit exponent < 2 := by
      rw [div_lt_iff₀ positive]
      have top := shape.two_pow_precision_mul_unit exponent
      rw [single, pow_one] at top
      rwa [top]
    have distances := tie
    rw [abs_sub_mul_unit, abs_sub_mul_unit] at distances
    have equal := mul_right_cancel₀ positive.ne' distances
    have close := nearest.close
    push_cast at close
    rw [abs_of_neg (sub_neg.mpr short)] at equal close
    -- the other number is the multiple on the far side of the quotient
    rcases abs_choice (magnitude / shape.unit exponent - factor) with up | down
    · rw [up] at equal
      have one_le : (1 : ℚ) ≤ factor := by linarith
      have lt_two : (factor : ℚ) < 2 := by linarith
      have one : factor = 1 := by
        have low : 1 ≤ factor := by exact_mod_cast one_le
        have high : factor < 2 := by exact_mod_cast lt_two
        omega
      rw [one, Int.cast_one, one_mul]
    · rw [down] at equal
      have two : (factor : ℚ) = 2 := by linarith
      exact absurd (by rw [two]) different
  · have strict :=
      abs_sub_lt_of_lt single.ge nearest (above low) small
    push_cast at strict
    exact absurd tie strict.ne'

/-- With a single bit a carry rounds to the next power of two. -/
theorem roundsTo_of_carry
    (single : shape.precision = 1)
    (low : shape.minExponent ≤ exponent)
    (inside : exponent < shape.maxExponent)
    (rounded :
      IsNearestInteger (magnitude / shape.unit exponent)
        (2 ^ shape.precision))
    (above : shape.minExponent < exponent → 2 ^ exponent ≤ magnitude)
    (below : magnitude < 2 ^ (exponent + 1)) :
    shape.RoundsTo magnitude
      ((2 ^ (shape.precision - 1) : ℕ) * shape.unit (exponent + 1))
      (2 ^ (shape.precision - 1)) := by
  have held := (canonical_of_carry single.ge low inside).holds
  have value_eq := two_pow_leading_mul_unit_succ single.ge exponent
  have nearest :
      shape.IsNearest magnitude
        ((2 ^ (shape.precision - 1) : ℕ) * shape.unit (exponent + 1))
        (2 ^ shape.precision) :=
    isNearest_of_isNearestInteger single.ge rounded above held value_eq id
  refine ⟨held, nearest.nearest, fun other otherHeld different tie => ?_⟩
  rw [single, pow_one] at rounded
  rw [value_eq, single, pow_one, Nat.cast_two] at different tie ⊢
  exact Or.inr ⟨rfl, two_mul_unit_eq_of_tie single rounded above below otherHeld
    different tie⟩

end Shape

/-! ## The result for any number of bits -/

/-- A rounded magnitude is the nearest one in a shape of any number of bits. -/
def Rounded.Nearest
    (rounded : Rounded)
    (shape : Shape)
    (magnitude : ℚ) :
    Prop :=
  match rounded with
  | .infinite => shape.overflowBound ≤ magnitude
  | .zero => magnitude < shape.overflowBound ∧ shape.RoundsTo magnitude 0 0
  | .finite exponent significand =>
    magnitude < shape.overflowBound ∧
      shape.Canonical exponent significand ∧
      shape.RoundsTo magnitude (significand * shape.unit exponent) significand

theorem Rounded.Correct.nearest
    {rounded : Rounded}
    {shape : Shape}
    {magnitude : ℚ}
    (correct : rounded.Correct shape magnitude) :
    rounded.Nearest shape magnitude := by
  cases rounded with
  | zero => exact ⟨correct.1, correct.2.roundsTo⟩
  | finite exponent significand =>
      exact ⟨correct.1, correct.2.1, correct.2.2.roundsTo⟩
  | infinite => exact correct

/-- From two bits on the nearest magnitude is the correct one. -/
theorem Rounded.Nearest.correct
    {rounded : Rounded}
    {shape : Shape}
    {magnitude : ℚ}
    (nearest : rounded.Nearest shape magnitude)
    (wide : 2 ≤ shape.precision) :
    rounded.Correct shape magnitude := by
  cases rounded with
  | zero => exact ⟨nearest.1, nearest.2.isNearest wide⟩
  | finite exponent significand =>
      exact ⟨nearest.1, nearest.2.1, nearest.2.2.isNearest wide⟩
  | infinite => exact nearest

namespace Shape

/-- The assembled number is the nearest one if the quotient is rounded correctly. -/
theorem assemble_nearest
    {shape : Shape}
    {magnitude : ℚ}
    {exponent : ℤ}
    {nearest : ℕ}
    (precise : 1 ≤ shape.precision)
    (narrow : shape.precision ≤ 128)
    (range : shape.minExponent ≤ shape.maxExponent)
    (low : shape.minExponent ≤ exponent)
    (rounded : IsNearestInteger (magnitude / shape.unit exponent) nearest)
    (above : shape.minExponent < exponent → 2 ^ exponent ≤ magnitude)
    (below : magnitude < 2 ^ (exponent + 1)) :
    (shape.assemble exponent nearest).Nearest shape magnitude := by
  rcases precise.lt_or_eq with wide | single
  · exact (assemble_correct wide narrow range low rounded above below).nearest
  · rcases (le_two_pow_of_rounded rounded below).eq_or_lt with rfl | small
    · rw [assemble_of_carry precise narrow]
      by_cases past : shape.maxExponent < exponent + 1
      · rw [if_pos past]
        exact overflowBound_le_of_carry range past rounded above
      · rw [if_neg past]
        have inside : exponent < shape.maxExponent := by omega
        exact ⟨lt_overflowBound_of_lt inside below,
          canonical_of_carry precise low inside,
          roundsTo_of_carry single.symm low inside rounded above below⟩
    · exact (assemble_correct_of_lt precise narrow range low rounded small
        above below).nearest

/-- A magnitude that is rounded to zero is at most half of the least number. -/
theorem RoundsTo.le_half_unit
    {shape : Shape}
    {magnitude : ℚ}
    (rounds : shape.RoundsTo magnitude 0 0)
    (precise : 1 ≤ shape.precision)
    (range : shape.minExponent ≤ shape.maxExponent)
    (nonneg : 0 ≤ magnitude) :
    magnitude ≤ shape.unit shape.minExponent / 2 := by
  have least : shape.Holds (shape.unit shape.minExponent) :=
    ⟨1, shape.minExponent, Nat.one_lt_two_pow (by omega), le_rfl, range,
      by rw [Nat.cast_one, one_mul]⟩
  have near := rounds.nearest _ least
  rw [sub_zero, abs_of_nonneg nonneg] at near
  have positive := shape.unit_pos shape.minExponent
  rcases abs_choice (magnitude - shape.unit shape.minExponent) with up | down
  · rw [up] at near
    linarith
  · rw [down] at near
    linarith

end Shape

namespace Ratio

variable {ratio : Ratio} {shape : Shape}

/-- A ratio is rounded to the nearest number of a shape of any number of bits. -/
theorem round_nearest
    (ratio : Ratio)
    (precise : 1 ≤ shape.precision)
    (narrow : shape.precision ≤ 128)
    (range : shape.minExponent ≤ shape.maxExponent) :
    (ratio.round shape).Nearest shape ratio.value := by
  by_cases zero : ratio.numerator = 0
  · rw [round_of_numerator_eq_zero zero, value, zero, Nat.cast_zero, zero_div]
    exact (Rounded.correct_zero precise range le_rfl
      (half_pos (shape.unit_pos _)).le).nearest
  · rw [round_eq_assemble zero]
    exact Shape.assemble_nearest precise narrow range (le_max_right _ _)
      (ratio.isNearestInteger_scaled shape _) (two_zpow_max_le zero)
      (lt_two_zpow_max zero _)

/-- A ratio is rounded correctly to a shape of two bits and more. -/
theorem round_correct
    (ratio : Ratio)
    {shape : Shape}
    (wide : 2 ≤ shape.precision)
    (narrow : shape.precision ≤ 128)
    (range : shape.minExponent ≤ shape.maxExponent) :
    (ratio.round shape).Correct shape ratio.value :=
  (ratio.round_nearest (by omega) narrow range).correct wide

theorem value_nonneg (ratio : Ratio) : 0 ≤ ratio.value :=
  div_nonneg (Nat.cast_nonneg _) (Nat.cast_nonneg _)

/-- A ratio is rounded to infinity from the overflow bound on. -/
theorem round_eq_infinite_iff
    (precise : 1 ≤ shape.precision)
    (narrow : shape.precision ≤ 128)
    (range : shape.minExponent ≤ shape.maxExponent) :
    ratio.round shape = .infinite ↔ shape.overflowBound ≤ ratio.value := by
  have result := ratio.round_nearest precise narrow range
  cases rounds : ratio.round shape with
  | zero =>
      rw [rounds] at result
      exact iff_of_false (nofun) (not_le.mpr result.1)
  | finite exponent significand =>
      rw [rounds] at result
      exact iff_of_false (nofun) (not_le.mpr result.1)
  | infinite =>
      rw [rounds] at result
      exact iff_of_true rfl result

/-- A ratio is rounded to zero up to half of the least number. -/
theorem round_eq_zero_iff
    (precise : 1 ≤ shape.precision)
    (narrow : shape.precision ≤ 128)
    (range : shape.minExponent ≤ shape.maxExponent) :
    ratio.round shape = .zero ↔
      ratio.value ≤ shape.unit shape.minExponent / 2 := by
  have result := ratio.round_nearest precise narrow range
  have nonneg := ratio.value_nonneg
  cases rounds : ratio.round shape with
  | zero =>
      rw [rounds] at result
      exact iff_of_true rfl (result.2.le_half_unit precise range nonneg)
  | finite exponent significand =>
      rw [rounds] at result
      refine iff_of_false (nofun) fun small => ?_
      exact significand_ne_zero rounds
        (result.2.2.eq_zero_of_le result.2.1 nonneg small)
  | infinite =>
      rw [rounds] at result
      refine iff_of_false (nofun) fun small => ?_
      exact absurd (small.trans_lt (Shape.half_unit_lt_overflowBound precise range))
        (not_lt.mpr result)

/-! ## What rounding passes through -/

/-- The exponent of a ratio, raised to the least one of a shape. -/
def startExponent (ratio : Ratio) (shape : Shape) : ℤ :=
  max ratio.log2 shape.minExponent

/-- The whole number of units that is nearest to a ratio. -/
def nearestUnits (ratio : Ratio) (shape : Shape) : ℕ :=
  (ratio.scaled ((shape.precision : ℤ) - 1 - ratio.startExponent shape)).nearest

/-- Whether the nearest number of units has one bit more than a significand. -/
def Carries (ratio : Ratio) (shape : Shape) : Prop :=
  shape.precision < bitLength (ratio.nearestUnits shape)

instance (ratio : Ratio) (shape : Shape) : Decidable (ratio.Carries shape) :=
  inferInstanceAs (Decidable (_ < _))

/-- The exponent that is left after a carry. -/
def carriedExponent (ratio : Ratio) (shape : Shape) : ℤ :=
  if ratio.Carries shape then ratio.startExponent shape + 1
  else ratio.startExponent shape

/-- The significand that is left after a carry. -/
def carriedSignificand (ratio : Ratio) (shape : Shape) : ℕ :=
  if ratio.Carries shape then ratio.nearestUnits shape / 2
  else ratio.nearestUnits shape

/-- After a carry the significand has no more bits than the shape. -/
theorem carriedSignificand_lt
    (nonzero : ratio.numerator ≠ 0)
    (shape : Shape) :
    ratio.carriedSignificand shape < 2 ^ shape.precision := by
  have bounded : ratio.nearestUnits shape ≤ 2 ^ shape.precision :=
    Shape.le_two_pow_of_rounded (ratio.isNearestInteger_scaled shape _)
      (lt_two_zpow_max nonzero _)
  have positive := Nat.two_pow_pos shape.precision
  rw [carriedSignificand]
  split
  · omega
  · rename_i stays
    rw [Carries, lt_bitLength_iff] at stays
    exact not_le.mp stays

/-- Rounding without the test for a significand that is too wide. -/
theorem round_eq_of_ne_zero
    (nonzero : ratio.numerator ≠ 0)
    (narrow : shape.precision ≤ 128) :
    ratio.round shape =
      if shape.maxExponent < ratio.carriedExponent shape then .infinite
      else if ratio.carriedSignificand shape = 0 then .zero
      else
        .finite (ratio.carriedExponent shape)
          (ratio.carriedSignificand shape) := by
  have word : ratio.carriedSignificand shape < 1 <<< 128 := by
    rw [Nat.one_shiftLeft]
    exact (carriedSignificand_lt nonzero shape).trans_le
      (Nat.pow_le_pow_right two_pos narrow)
  have whole :
      ratio.round shape =
        if shape.maxExponent < ratio.carriedExponent shape then .infinite
        else if ratio.carriedSignificand shape = 0 then .zero
        else if ratio.carriedSignificand shape < 1 <<< 128 then
          .finite (ratio.carriedExponent shape)
            (ratio.carriedSignificand shape)
        else .infinite := by
    rw [round_eq_assemble nonzero, Shape.assemble]
    simp only [decide_eq_true_eq]
    rfl
  rw [whole, if_pos word]

/-- The exponent of a ratio is the floor of its logarithm to the base two. -/
theorem log2_eq_floor_logb
    (nonzero : ratio.numerator ≠ 0) :
    ratio.log2 = ⌊Real.logb 2 ratio.value⌋ := by
  obtain ⟨low, high⟩ := log2_spec nonzero
  have lowReal : (2 : ℝ) ^ ratio.log2 ≤ ratio.value := by
    simpa using Rat.cast_le (K := ℝ) |>.mpr low
  have highReal : (ratio.value : ℝ) < 2 ^ (ratio.log2 + 1) := by
    simpa using Rat.cast_lt (K := ℝ) |>.mpr high
  have positive : (0 : ℝ) < ratio.value :=
    (zpow_pos two_pos ratio.log2).trans_le lowReal
  symm
  rw [Int.floor_eq_iff, Real.le_logb_iff_rpow_le one_lt_two positive,
    Real.logb_lt_iff_lt_rpow one_lt_two positive]
  constructor
  · rwa [Real.rpow_intCast]
  · rwa [← Int.cast_one, ← Int.cast_add, Real.rpow_intCast]

/--
A ratio is rounded correctly to every shape of 1 to 128 bits.  The result is
infinite exactly from the overflow bound on and zero exactly up to half of the
least number; otherwise it is a number of the shape, in the form that is unique,
to which no other number of the shape is nearer.  Of two numbers at the same
distance it is the one with the even significand, and with a single bit, where
both significands are one, the larger power of two.  A significand that is too
wide to be kept never comes up, and the exponent that rounding starts from is the
floor of the logarithm.
-/
theorem round_to_every_shape
    (ratio : Ratio)
    (shape : Shape)
    (precise : 1 ≤ shape.precision)
    (narrow : shape.precision ≤ 128)
    (range : shape.minExponent ≤ shape.maxExponent) :
    (ratio.round shape = .infinite ↔ shape.overflowBound ≤ ratio.value) ∧
      (ratio.round shape = .zero ↔
        ratio.value ≤ shape.unit shape.minExponent / 2) ∧
      (ratio.round shape = .zero → shape.RoundsTo ratio.value 0 0) ∧
      (∀ exponent significand,
        ratio.round shape = .finite exponent significand →
          0 < significand ∧
            shape.Canonical exponent significand ∧
            shape.RoundsTo ratio.value (significand * shape.unit exponent)
              significand) ∧
      (ratio.numerator ≠ 0 →
        ratio.carriedSignificand shape < 2 ^ 128 ∧
          ratio.round shape =
            (if shape.maxExponent < ratio.carriedExponent shape then .infinite
            else if ratio.carriedSignificand shape = 0 then .zero
            else
              .finite (ratio.carriedExponent shape)
                (ratio.carriedSignificand shape)) ∧
          2 ^ ratio.log2 ≤ ratio.value ∧
          ratio.value < 2 ^ (ratio.log2 + 1) ∧
          ratio.log2 = ⌊Real.logb 2 ratio.value⌋) := by
  have result := ratio.round_nearest precise narrow range
  refine ⟨round_eq_infinite_iff precise narrow range,
    round_eq_zero_iff precise narrow range, ?_, ?_, ?_⟩
  · intro rounds
    rw [rounds] at result
    exact result.2
  · intro exponent significand rounds
    rw [rounds] at result
    exact ⟨Nat.pos_of_ne_zero (significand_ne_zero rounds), result.2.1, result.2.2⟩
  · intro nonzero
    have word : ratio.carriedSignificand shape < 2 ^ 128 :=
      (carriedSignificand_lt nonzero shape).trans_le
        (Nat.pow_le_pow_right two_pos narrow)
    obtain ⟨low, high⟩ := log2_spec nonzero
    exact ⟨word, round_eq_of_ne_zero nonzero narrow, low, high,
      log2_eq_floor_logb nonzero⟩

/-- A tie in a shape of one bit, between the powers of two on both sides. -/
theorem threeHalves_to_single_bit :
    (⟨6, 4, by decide⟩ : Ratio).round ⟨1, -3, 4⟩ = .finite 1 1 ∧
      (⟨1, -3, 4⟩ : Shape).RoundsTo (3 / 2) 2 1 := by
  have rounds : (⟨6, 4, by decide⟩ : Ratio).round ⟨1, -3, 4⟩ = .finite 1 1 := by
    decide
  obtain ⟨-, -, -, finite, -⟩ :=
    round_to_every_shape ⟨6, 4, by decide⟩ ⟨1, -3, 4⟩ (by decide) (by decide)
      (by decide)
  obtain ⟨-, -, roundsTo⟩ := finite 1 1 rounds
  norm_num [value, Shape.unit] at roundsTo
  exact ⟨rounds, roundsTo⟩

end Ratio

end CallFrame
