import CallFrame.Proofs.Rounding.Nearest

/-!
# Rounding of ratios

A ratio is rounded in three steps: its exponent is found from the lengths of its
two numbers, it is divided by the unit of that exponent, and the quotient is
rounded to a whole number.  A quotient that reaches the next power of two is
halved and its exponent is raised.

Each step has one law here, and what is assembled from all three is the correct
result.
-/

namespace CallFrame

/-- A power of two as a ratio of natural numbers. -/
theorem two_zpow_eq_div (exponent : ℤ) :
    (2 : ℚ) ^ exponent = 2 ^ exponent.toNat / 2 ^ (-exponent).toNat := by
  rcases le_total 0 exponent with up | down
  · have none : (-exponent).toNat = 0 := Int.toNat_eq_zero.mpr (by omega)
    rw [none, pow_zero, div_one, ← zpow_natCast, Int.toNat_of_nonneg up]
  · have none : exponent.toNat = 0 := Int.toNat_eq_zero.mpr down
    rw [none, pow_zero, one_div, ← zpow_natCast, Int.toNat_of_nonneg (by omega),
      zpow_neg, inv_inv]

/-! ## Division -/

namespace Division

/-- The quotient that a division stands for. -/
def value (division : Division) : ℚ :=
  division.quotient + division.remainder / division.divisor

theorem isNearestInteger_nearest
    {division : Division}
    (small : division.remainder < division.divisor) :
    IsNearestInteger division.value division.nearest := by
  rcases division with ⟨quotient, remainder, divisor⟩
  have positive : (0 : ℚ) < divisor := by
    exact_mod_cast Nat.zero_lt_of_lt small
  have nonneg : (0 : ℚ) ≤ remainder / divisor := by positivity
  have below : (remainder : ℚ) / divisor < 1 := by
    rw [div_lt_one positive]
    exact_mod_cast small
  rw [value, nearest]
  dsimp only
  rcases lt_trichotomy (2 * remainder) divisor with less | half | more
  · rw [Nat.compare_eq_lt.mpr less]
    apply IsNearestInteger.of_lt_half nonneg
    rw [div_lt_div_iff₀ positive two_pos]
    exact_mod_cast (by omega : remainder * 2 < 1 * divisor)
  · have fraction : (remainder : ℚ) / divisor = 1 / 2 := by
      rw [div_eq_div_iff positive.ne' two_ne_zero]
      exact_mod_cast (by omega : remainder * 2 = 1 * divisor)
    rw [Nat.compare_eq_eq.mpr half, fraction]
    exact IsNearestInteger.of_half quotient
  · rw [Nat.compare_eq_gt.mpr more]
    apply IsNearestInteger.of_half_lt _ below
    rw [div_lt_div_iff₀ two_pos positive]
    exact_mod_cast (by omega : 1 * divisor < remainder * 2)

end Division

/-! ## Exponent and quotient of a ratio -/

namespace Ratio

/-- The rational number that a ratio stands for. -/
def value (ratio : Ratio) : ℚ :=
  ratio.numerator / ratio.denominator

theorem denominator_pos (ratio : Ratio) : (0 : ℚ) < ratio.denominator := by
  exact_mod_cast ratio.positive

theorem scaled_value (ratio : Ratio) (scale : ℤ) :
    (ratio.scaled scale).value = ratio.value * 2 ^ scale := by
  have positive : 0 < ratio.denominator <<< (-scale).toNat := by
    rw [Nat.shiftLeft_eq]
    exact Nat.mul_pos ratio.positive (Nat.two_pow_pos _)
  have nonzero : ((ratio.denominator <<< (-scale).toNat : ℕ) : ℚ) ≠ 0 := by
    exact_mod_cast positive.ne'
  have whole :
      ((ratio.numerator <<< scale.toNat : ℕ) : ℚ) =
        (ratio.scaled scale).divisor * (ratio.scaled scale).quotient +
          (ratio.scaled scale).remainder := by
    exact_mod_cast (Nat.div_add_mod (ratio.numerator <<< scale.toNat)
      (ratio.denominator <<< (-scale).toNat)).symm
  calc (ratio.scaled scale).value
      = (ratio.numerator <<< scale.toNat : ℕ) /
          (ratio.denominator <<< (-scale).toNat : ℕ) := by
        rw [whole, Division.value, add_div]
        congr 1
        exact (mul_div_cancel_left₀ _ nonzero).symm
    _ = ratio.value * 2 ^ scale := by
        rw [value, two_zpow_eq_div, div_mul_div_comm, Nat.shiftLeft_eq,
          Nat.shiftLeft_eq]
        push_cast
        rfl

theorem scaled_remainder_lt (ratio : Ratio) (scale : ℤ) :
    (ratio.scaled scale).remainder < (ratio.scaled scale).divisor := by
  apply Nat.mod_lt
  rw [Nat.shiftLeft_eq]
  exact Nat.mul_pos ratio.positive (Nat.two_pow_pos _)

/-- Shifting both numbers compares a ratio with a power of two. -/
theorem shiftLeft_lt_iff (ratio : Ratio) (exponent : ℤ) :
    ratio.numerator <<< (-exponent).toNat <
        ratio.denominator <<< exponent.toNat ↔
      ratio.value < 2 ^ exponent := by
  have low : (0 : ℚ) < 2 ^ (-exponent).toNat := by positivity
  rw [value, two_zpow_eq_div, div_lt_div_iff₀ ratio.denominator_pos low,
    Nat.shiftLeft_eq, Nat.shiftLeft_eq, mul_comm (2 ^ exponent.toNat : ℚ)]
  exact_mod_cast Iff.rfl

theorem two_pow_log2_bounds
    {number : ℕ}
    (nonzero : number ≠ 0) :
    (2 : ℚ) ^ (number.log2 : ℤ) ≤ number ∧
      (number : ℚ) < 2 ^ ((number.log2 : ℤ) + 1) := by
  constructor
  · rw [zpow_natCast]
    exact_mod_cast Nat.log2_self_le nonzero
  · have above : number < 2 ^ (number.log2 + 1) := Nat.lt_log2_self
    exact_mod_cast above

/-- The exponent of a ratio is that of the greatest power of two below it. -/
theorem log2_spec
    {ratio : Ratio}
    (nonzero : ratio.numerator ≠ 0) :
    2 ^ ratio.log2 ≤ ratio.value ∧ ratio.value < 2 ^ (ratio.log2 + 1) := by
  obtain ⟨numeratorLow, numeratorHigh⟩ := two_pow_log2_bounds nonzero
  obtain ⟨denominatorLow, denominatorHigh⟩ :=
    two_pow_log2_bounds ratio.positive.ne'
  set top : ℤ := (ratio.numerator.log2 : ℤ)
  set bottom : ℤ := (ratio.denominator.log2 : ℤ)
  have low : (2 : ℚ) ^ (top - bottom - 1) ≤ ratio.value := by
    rw [value, le_div_iff₀ ratio.denominator_pos]
    calc (2 : ℚ) ^ (top - bottom - 1) * ratio.denominator
        ≤ 2 ^ (top - bottom - 1) * 2 ^ (bottom + 1) := by gcongr
      _ = 2 ^ top := by
          rw [← zpow_add₀ two_ne_zero]
          congr 1
          ring
      _ ≤ ratio.numerator := numeratorLow
  have high : ratio.value < 2 ^ (top - bottom + 1) := by
    rw [value, div_lt_iff₀ ratio.denominator_pos]
    calc (ratio.numerator : ℚ)
        < 2 ^ (top + 1) := numeratorHigh
      _ = 2 ^ (top - bottom + 1) * 2 ^ bottom := by
          rw [← zpow_add₀ two_ne_zero]
          congr 1
          ring
      _ ≤ 2 ^ (top - bottom + 1) * ratio.denominator := by gcongr
  have estimate :
      (bitLength ratio.numerator : ℤ) - (bitLength ratio.denominator : ℤ) =
        top - bottom := by
    rw [bitLength, bitLength, if_neg nonzero, if_neg ratio.positive.ne']
    push_cast
    ring
  rw [log2, estimate]
  by_cases below : ratio.value < 2 ^ (top - bottom)
  · rw [if_pos ((shiftLeft_lt_iff ratio _).mpr below), sub_add_cancel]
    exact ⟨low, below⟩
  · rw [if_neg fun less => below ((shiftLeft_lt_iff ratio _).mp less)]
    exact ⟨not_lt.mp below, high⟩

end Ratio

/-! ## Assembly of the result -/

theorem lt_bitLength_iff
    {bits number : ℕ} :
    bits < bitLength number ↔ 2 ^ bits ≤ number := by
  rw [bitLength]
  by_cases zero : number = 0
  · rw [if_pos zero, zero]
    simp
  · rw [if_neg zero, Nat.lt_succ_iff, Nat.le_log2 zero]

namespace Shape

/-- The number of a shape that a rounded quotient at an exponent stands for. -/
def assemble (shape : Shape) (exponent : ℤ) (nearest : ℕ) : Rounded :=
  let carries : Bool := shape.precision < bitLength nearest
  let significand := if carries then nearest / 2 else nearest
  let exponent := if carries then exponent + 1 else exponent
  if shape.maxExponent < exponent then .infinite
  else if significand = 0 then .zero
  else if significand < 1 <<< 128 then .finite exponent significand
  else .infinite

theorem assemble_of_carry
    {shape : Shape}
    (precise : 1 ≤ shape.precision)
    (narrow : shape.precision ≤ 128)
    (exponent : ℤ) :
    shape.assemble exponent (2 ^ shape.precision) =
      if shape.maxExponent < exponent + 1 then .infinite
      else .finite (exponent + 1) (2 ^ (shape.precision - 1)) := by
  have carries :
      decide (shape.precision < bitLength (2 ^ shape.precision)) = true :=
    decide_eq_true (lt_bitLength_iff.mpr le_rfl)
  have half : 2 ^ shape.precision / 2 = 2 ^ (shape.precision - 1) :=
    Nat.pow_div precise two_pos
  have word : 2 ^ (shape.precision - 1) < 1 <<< 128 := by
    rw [Nat.one_shiftLeft]
    exact Nat.pow_lt_pow_right one_lt_two (by omega)
  rw [assemble, carries, if_pos rfl, if_pos rfl, half,
    if_neg (Nat.two_pow_pos _).ne', if_pos word]

theorem assemble_of_lt
    {shape : Shape}
    (narrow : shape.precision ≤ 128)
    (exponent : ℤ)
    {nearest : ℕ}
    (small : nearest < 2 ^ shape.precision) :
    shape.assemble exponent nearest =
      if shape.maxExponent < exponent then .infinite
      else if nearest = 0 then .zero
      else .finite exponent nearest := by
  have stays :
      decide (shape.precision < bitLength nearest) = false :=
    decide_eq_false fun carries =>
      absurd small (Nat.not_lt.mpr (lt_bitLength_iff.mp carries))
  have word : nearest < 1 <<< 128 := by
    rw [Nat.one_shiftLeft]
    exact small.trans_le (Nat.pow_le_pow_right two_pos narrow)
  rw [assemble, stays, if_neg Bool.false_ne_true, if_neg Bool.false_ne_true,
    if_pos word]

section Assembled

variable {shape : Shape} {magnitude : ℚ} {exponent : ℤ} {nearest : ℕ}

/-- Beyond the largest exponent every magnitude is rounded to infinity. -/
theorem overflowBound_le_of_lt
    (past : shape.maxExponent < exponent)
    (above : 2 ^ exponent ≤ magnitude) :
    shape.overflowBound ≤ magnitude :=
  calc shape.overflowBound
      ≤ 2 ^ (shape.maxExponent + 1) := shape.overflowBound_le
    _ ≤ 2 ^ exponent := zpow_le_zpow_right₀ one_le_two past
    _ ≤ magnitude := above

theorem lt_overflowBound_of_lt
    (inside : exponent < shape.maxExponent)
    (below : magnitude < 2 ^ (exponent + 1)) :
    magnitude < shape.overflowBound :=
  calc magnitude
      < 2 ^ (exponent + 1) := below
    _ ≤ 2 ^ shape.maxExponent := zpow_le_zpow_right₀ one_le_two inside
    _ ≤ shape.overflowBound := shape.two_zpow_le_overflowBound

/-- At the largest exponent the quotient decides about infinity. -/
theorem overflowBound_le_iff
    (shape : Shape)
    (magnitude : ℚ) :
    shape.overflowBound ≤ magnitude ↔
      2 ^ shape.precision - 1 / 2 ≤
        magnitude / shape.unit shape.maxExponent := by
  rw [overflowBound_eq, le_div_iff₀ (shape.unit_pos _)]

/-- At the largest exponent a quotient that reaches the next power is too large. -/
theorem overflowBound_le_of_carry
    (range : shape.minExponent ≤ shape.maxExponent)
    (past : shape.maxExponent < exponent + 1)
    (rounded :
      IsNearestInteger (magnitude / shape.unit exponent)
        (2 ^ shape.precision))
    (above : shape.minExponent < exponent → 2 ^ exponent ≤ magnitude) :
    shape.overflowBound ≤ magnitude := by
  rcases (Int.lt_add_one_iff.mp past).lt_or_eq with beyond | last
  · exact overflowBound_le_of_lt beyond (above (range.trans_lt beyond))
  · apply (shape.overflowBound_le_iff magnitude).mpr
    have close := (abs_le.mp rounded.close).1
    rw [last]
    push_cast at close
    linarith

theorem canonical_of_carry
    (precise : 1 ≤ shape.precision)
    (low : shape.minExponent ≤ exponent)
    (inside : exponent < shape.maxExponent) :
    shape.Canonical (exponent + 1) (2 ^ (shape.precision - 1)) := by
  constructor
  · exact Nat.pow_lt_pow_right one_lt_two (by omega)
  · omega
  · exact inside
  · exact Or.inl le_rfl

theorem two_pow_leading_mul_unit_succ
    (precise : 1 ≤ shape.precision)
    (exponent : ℤ) :
    ((2 ^ (shape.precision - 1) : ℕ) : ℚ) * shape.unit (exponent + 1) =
      (2 ^ shape.precision : ℕ) * shape.unit exponent := by
  rw [unit_succ, ← mul_assoc]
  push_cast
  rw [pow_sub_one_mul (by omega)]

/-- A quotient that is rounded to the next power of two moves the exponent. -/
theorem assemble_correct_of_carry
    (precise : 2 ≤ shape.precision)
    (narrow : shape.precision ≤ 128)
    (range : shape.minExponent ≤ shape.maxExponent)
    (low : shape.minExponent ≤ exponent)
    (rounded :
      IsNearestInteger (magnitude / shape.unit exponent)
        (2 ^ shape.precision))
    (above : shape.minExponent < exponent → 2 ^ exponent ≤ magnitude)
    (below : magnitude < 2 ^ (exponent + 1)) :
    (shape.assemble exponent (2 ^ shape.precision)).Correct shape
      magnitude := by
  rw [assemble_of_carry (by omega) narrow]
  by_cases past : shape.maxExponent < exponent + 1
  · rw [if_pos past]
    exact overflowBound_le_of_carry range past rounded above
  · rw [if_neg past]
    have inside : exponent < shape.maxExponent := by omega
    have canonical := canonical_of_carry (by omega) low inside
    refine ⟨lt_overflowBound_of_lt inside below, canonical, ?_⟩
    apply isNearest_of_isNearestInteger (by omega) rounded above
    · exact canonical.holds
    · exact two_pow_leading_mul_unit_succ (by omega) exponent
    · intro even
      exact Nat.even_pow.mpr ⟨even_two, by omega⟩

/-- Below the next power of two the quotient tells finite from infinite. -/
theorem lt_overflowBound_of_rounded
    (precise : 1 ≤ shape.precision)
    (past : exponent ≤ shape.maxExponent)
    (rounded : IsNearestInteger (magnitude / shape.unit exponent) nearest)
    (small : nearest < 2 ^ shape.precision)
    (below : magnitude < 2 ^ (exponent + 1)) :
    magnitude < shape.overflowBound := by
  rcases past.lt_or_eq with inside | rfl
  · exact lt_overflowBound_of_lt inside below
  · have even : Even (2 ^ shape.precision) :=
      Nat.even_pow.mpr ⟨even_two, by omega⟩
    have short := rounded.lt_of_lt_even even small
    push_cast at short
    by_contra large
    rw [not_lt, overflowBound_le_iff] at large
    exact absurd short (not_lt.mpr large)

/-- A rounded quotient is a canonical significand, at the least exponent too. -/
theorem canonical_of_rounded
    (precise : 1 ≤ shape.precision)
    (low : shape.minExponent ≤ exponent)
    (past : exponent ≤ shape.maxExponent)
    (rounded : IsNearestInteger (magnitude / shape.unit exponent) nearest)
    (small : nearest < 2 ^ shape.precision)
    (above : shape.minExponent < exponent → 2 ^ exponent ≤ magnitude) :
    shape.Canonical exponent nearest := by
  constructor
  · exact small
  · exact low
  · exact past
  · rcases low.lt_or_eq with normal | least
    · left
      apply rounded.ge_of_ge
      rw [le_div_iff₀ (shape.unit_pos exponent)]
      push_cast
      rw [two_pow_leading_mul_unit (by omega)]
      exact above normal
    · exact Or.inr least.symm

/-- A quotient that is rounded below the next power of two stays as it is. -/
theorem assemble_correct_of_lt
    (precise : 1 ≤ shape.precision)
    (narrow : shape.precision ≤ 128)
    (range : shape.minExponent ≤ shape.maxExponent)
    (low : shape.minExponent ≤ exponent)
    (rounded : IsNearestInteger (magnitude / shape.unit exponent) nearest)
    (small : nearest < 2 ^ shape.precision)
    (above : shape.minExponent < exponent → 2 ^ exponent ≤ magnitude)
    (below : magnitude < 2 ^ (exponent + 1)) :
    (shape.assemble exponent nearest).Correct shape magnitude := by
  rw [assemble_of_lt narrow exponent small]
  by_cases past : shape.maxExponent < exponent
  · rw [if_pos past]
    exact overflowBound_le_of_lt past (above (range.trans_lt past))
  · rw [if_neg past]
    rw [not_lt] at past
    have finite := lt_overflowBound_of_rounded precise past rounded small below
    by_cases zero : nearest = 0
    · rw [if_pos zero]
      refine ⟨finite, ?_⟩
      apply isNearest_of_isNearestInteger (by omega) rounded above
      · exact holds_zero range
      · rw [zero, Nat.cast_zero, zero_mul]
      · intro even
        exact Even.zero
    · rw [if_neg zero]
      have canonical :=
        canonical_of_rounded precise low past rounded small above
      refine ⟨finite, canonical, ?_⟩
      exact isNearest_of_isNearestInteger (by omega) rounded above
        canonical.holds rfl id

/-- A quotient below the next power of two is not rounded beyond it. -/
theorem le_two_pow_of_rounded
    (rounded : IsNearestInteger (magnitude / shape.unit exponent) nearest)
    (below : magnitude < 2 ^ (exponent + 1)) :
    nearest ≤ 2 ^ shape.precision := by
  apply rounded.le_of_le
  rw [div_le_iff₀ (shape.unit_pos exponent)]
  push_cast
  rw [shape.two_pow_precision_mul_unit]
  exact below.le

/-- The assembled number is correct if the quotient is rounded correctly. -/
theorem assemble_correct
    (precise : 2 ≤ shape.precision)
    (narrow : shape.precision ≤ 128)
    (range : shape.minExponent ≤ shape.maxExponent)
    (low : shape.minExponent ≤ exponent)
    (rounded : IsNearestInteger (magnitude / shape.unit exponent) nearest)
    (above : shape.minExponent < exponent → 2 ^ exponent ≤ magnitude)
    (below : magnitude < 2 ^ (exponent + 1)) :
    (shape.assemble exponent nearest).Correct shape magnitude := by
  rcases (le_two_pow_of_rounded rounded below).eq_or_lt with rfl | small
  · exact assemble_correct_of_carry precise narrow range low rounded above below
  · exact assemble_correct_of_lt (by omega) narrow range low rounded small
      above below

end Assembled

end Shape

theorem Ratio.round_of_numerator_eq_zero
    {ratio : Ratio}
    (zero : ratio.numerator = 0)
    (shape : Shape) :
    ratio.round shape = .zero := by
  rw [round, if_pos zero]

theorem Ratio.round_eq_assemble
    {ratio : Ratio}
    (nonzero : ratio.numerator ≠ 0)
    (shape : Shape) :
    ratio.round shape =
      shape.assemble (max ratio.log2 shape.minExponent)
        (ratio.scaled ((shape.precision : ℤ) - 1 -
          max ratio.log2 shape.minExponent)).nearest := by
  rw [round, if_neg nonzero]
  rfl

/-- A finite number that a ratio is rounded to is not zero. -/
theorem Ratio.significand_ne_zero
    {ratio : Ratio}
    {shape : Shape}
    {exponent : ℤ}
    {significand : ℕ}
    (rounds : ratio.round shape = .finite exponent significand) :
    significand ≠ 0 := by
  by_cases zero : ratio.numerator = 0
  · rw [round_of_numerator_eq_zero zero] at rounds
    cases rounds
  · rw [round_eq_assemble zero, Shape.assemble] at rounds
    split_ifs at rounds <;> cases rounds <;> assumption

/-- The quotient by a unit is rounded to the nearest whole number. -/
theorem Ratio.isNearestInteger_scaled
    (ratio : Ratio)
    (shape : Shape)
    (exponent : ℤ) :
    IsNearestInteger (ratio.value / shape.unit exponent)
      (ratio.scaled ((shape.precision : ℤ) - 1 - exponent)).nearest := by
  rw [shape.div_unit, ← scaled_value]
  exact Division.isNearestInteger_nearest (ratio.scaled_remainder_lt _)

/-- A ratio is at or above the power of its exponent, unless that is raised. -/
theorem Ratio.two_zpow_max_le
    {ratio : Ratio}
    (nonzero : ratio.numerator ≠ 0)
    {least : ℤ}
    (normal : least < max ratio.log2 least) :
    2 ^ max ratio.log2 least ≤ ratio.value := by
  rw [max_eq_left (by omega)]
  exact (log2_spec nonzero).1

theorem Ratio.lt_two_zpow_max
    {ratio : Ratio}
    (nonzero : ratio.numerator ≠ 0)
    (least : ℤ) :
    ratio.value < 2 ^ (max ratio.log2 least + 1) := by
  apply (log2_spec nonzero).2.trans_le
  apply zpow_le_zpow_right₀ one_le_two
  omega

end CallFrame
