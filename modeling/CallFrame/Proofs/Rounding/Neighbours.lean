import CallFrame.Proofs.Rounding.Nearest

/-!
# Neighbouring numbers

Above a number of a shape the next one is a unit away.  Below it the next one is
a unit away as well, unless the number is a power of two with smaller exponents
below it, whose units are half as long.  The largest number has no neighbour
above it; the overflow bound takes its place, half a unit away.

So a magnitude is nearest to a number if it is at most half the way to its
neighbours, and only a magnitude in the middle asks for an even significand.
Conversely the nearest number is at most half of its unit away.
-/

namespace CallFrame.Shape

variable
  {shape : Shape}
  {exponent : ℤ}
  {significand : ℕ}

/-! ## The number above -/

section Above

/-- Half a unit is a unit of the exponent below. -/
theorem unit_pred (shape : Shape) (exponent : ℤ) :
    shape.unit (exponent - 1) = shape.unit exponent / 2 := by
  have half := shape.unit_succ (exponent - 1)
  rw [sub_add_cancel] at half
  rw [half]
  ring

/-- Above a number there is another one, or the overflow bound. -/
theorem Canonical.holds_add_unit
    (precise : 1 ≤ shape.precision)
    (canonical : shape.Canonical exponent significand) :
    shape.Holds (significand * shape.unit exponent + shape.unit exponent) ∨
      shape.overflowBound =
        significand * shape.unit exponent + shape.unit exponent / 2 := by
  have bits : significand + 1 ≤ 2 ^ shape.precision := canonical.significand_lt
  have next :
      (significand : ℚ) * shape.unit exponent + shape.unit exponent =
        (significand + 1 : ℕ) * shape.unit exponent := by
    push_cast
    ring
  rw [next]
  rcases bits.lt_or_eq with inside | last
  · exact Or.inl ⟨significand + 1, exponent, inside, canonical.minExponent_le,
      canonical.le_maxExponent, rfl⟩
  · rcases canonical.le_maxExponent.lt_or_eq with lower | top
    · refine Or.inl ⟨2 ^ (shape.precision - 1), exponent + 1,
        Nat.pow_lt_pow_right one_lt_two (by omega),
        canonical.minExponent_le.trans (by omega), lower, ?_⟩
      rw [last, unit_succ, ← mul_assoc]
      push_cast
      rw [pow_sub_one_mul (by omega)]
    · have whole : (significand : ℚ) + 1 = 2 ^ shape.precision := by
        exact_mod_cast last
      right
      rw [overflowBound_eq, ← top, ← whole]
      ring

/-- What is above a number is at least a unit above it. -/
theorem Canonical.add_unit_le
    (precise : 1 ≤ shape.precision)
    (canonical : shape.Canonical exponent significand)
    {other : ℚ}
    (held : shape.Holds other)
    (above : significand * shape.unit exponent < other) :
    significand * shape.unit exponent + shape.unit exponent ≤ other := by
  have positive := shape.unit_pos exponent
  rcases held.multiple_or_lt exponent with ⟨factor, rfl⟩ | ⟨normal, below⟩
  · have greater : (significand : ℤ) < factor := by
      exact_mod_cast lt_of_mul_lt_mul_right above positive.le
    have next : (significand : ℚ) + 1 ≤ factor := by exact_mod_cast greater
    rw [← add_one_mul]
    exact mul_le_mul_of_nonneg_right next positive.le
  · have leading : (2 ^ (shape.precision - 1) : ℚ) ≤ significand := by
      exact_mod_cast canonical.leading.resolve_right normal.ne'
    have power := two_pow_leading_mul_unit precise exponent
    have least := mul_le_mul_of_nonneg_right leading positive.le
    linarith

end Above

/-! ## The number below -/

section Below

/-- The exponent of the unit between a number and the one below it. -/
def placeBelow (shape : Shape) (exponent : ℤ) (significand : ℕ) : ℤ :=
  if significand = 2 ^ (shape.precision - 1) ∧ shape.minExponent < exponent then
    exponent - 1
  else
    exponent

theorem placeBelow_le (shape : Shape) (exponent : ℤ) (significand : ℕ) :
    shape.placeBelow exponent significand ≤ exponent := by
  rw [placeBelow]
  split_ifs <;> omega

theorem Canonical.minExponent_le_placeBelow
    (canonical : shape.Canonical exponent significand) :
    shape.minExponent ≤ shape.placeBelow exponent significand := by
  have low := canonical.minExponent_le
  rw [placeBelow]
  split_ifs with power
  · omega
  · exact low

theorem unit_placeBelow_le (shape : Shape) (exponent : ℤ) (significand : ℕ) :
    shape.unit (shape.placeBelow exponent significand) ≤
      shape.unit exponent := by
  have le := shape.placeBelow_le exponent significand
  exact zpow_le_zpow_right₀ one_le_two (by omega)

/-- The unit below an odd number is its own. -/
theorem placeBelow_of_odd
    (precise : 2 ≤ shape.precision)
    (odd : Odd significand) :
    shape.placeBelow exponent significand = exponent := by
  rw [placeBelow, if_neg]
  rintro ⟨rfl, -⟩
  exact Nat.not_even_iff_odd.mpr odd (Nat.even_pow.mpr ⟨even_two, by omega⟩)

/-- A number other than zero has one below it. -/
theorem Canonical.holds_sub_unit
    (precise : 1 ≤ shape.precision)
    (canonical : shape.Canonical exponent significand)
    (nonzero : significand ≠ 0) :
    shape.Holds (significand * shape.unit exponent -
      shape.unit (shape.placeBelow exponent significand)) := by
  have bits := canonical.significand_lt
  rw [placeBelow]
  split_ifs with power
  · obtain ⟨leading, normal⟩ := power
    have whole : 1 ≤ 2 ^ shape.precision := Nat.one_le_two_pow
    refine ⟨2 ^ shape.precision - 1, exponent - 1, by omega, by omega,
      (by omega : exponent - 1 ≤ exponent).trans canonical.le_maxExponent, ?_⟩
    have double : (2 : ℚ) ^ shape.precision = 2 ^ (shape.precision - 1) * 2 :=
      (pow_sub_one_mul (by omega) 2).symm
    rw [unit_pred, leading]
    push_cast [whole]
    rw [double]
    ring
  · refine ⟨significand - 1, exponent, by omega, canonical.minExponent_le,
      canonical.le_maxExponent, ?_⟩
    push_cast [Nat.one_le_iff_ne_zero.mpr nonzero]
    ring

/-- What is below a multiple of a unit, and one itself, is a unit below it. -/
theorem mul_unit_le_sub_unit
    {factor : ℤ}
    (below : factor * shape.unit exponent < significand * shape.unit exponent) :
    factor * shape.unit exponent ≤
      significand * shape.unit exponent - shape.unit exponent := by
  have positive := shape.unit_pos exponent
  have less : factor < (significand : ℤ) := by
    exact_mod_cast lt_of_mul_lt_mul_right below positive.le
  have next : (factor : ℚ) + 1 ≤ significand := by exact_mod_cast less
  have scaled := mul_le_mul_of_nonneg_right next positive.le
  linarith

/-- What is below a number is at least the unit there below it. -/
theorem Canonical.le_sub_unit
    (precise : 1 ≤ shape.precision)
    (canonical : shape.Canonical exponent significand)
    {other : ℚ}
    (held : shape.Holds other)
    (below : other < significand * shape.unit exponent) :
    other ≤ significand * shape.unit exponent -
      shape.unit (shape.placeBelow exponent significand) := by
  have positive := shape.unit_pos exponent
  have power := two_pow_leading_mul_unit precise exponent
  rw [placeBelow]
  split_ifs with boundary
  · -- below a power of two the units are half as long
    obtain ⟨rfl, normal⟩ := boundary
    have halves :
        ((2 ^ (shape.precision - 1) : ℕ) : ℚ) * shape.unit exponent =
          (2 ^ shape.precision : ℕ) * shape.unit (exponent - 1) := by
      push_cast
      rw [power, two_pow_precision_mul_unit, sub_add_cancel]
    rcases held.multiple_or_lt (exponent - 1) with ⟨factor, rfl⟩ | ⟨-, small⟩
    · rw [halves] at below ⊢
      exact mul_unit_le_sub_unit below
    · have least : shape.unit exponent ≤ 2 ^ exponent := by
        rw [← power]
        exact le_mul_of_one_le_left positive.le (one_le_pow₀ one_le_two)
      have half := zpow_sub_one₀ (two_ne_zero (α := ℚ)) exponent
      rw [half] at small
      rw [unit_pred]
      push_cast
      rw [power]
      linarith
  · rcases held.multiple_or_lt exponent with ⟨factor, rfl⟩ | ⟨normal, small⟩
    · exact mul_unit_le_sub_unit below
    · have leading := canonical.leading.resolve_right normal.ne'
      have next : (2 ^ (shape.precision - 1) : ℚ) + 1 ≤ significand := by
        have greater :=
          leading.lt_of_ne fun equal => boundary ⟨equal.symm, normal⟩
        exact_mod_cast greater
      have scaled := mul_le_mul_of_nonneg_right next positive.le
      linarith

end Below

/-! ## Half the way to a neighbour -/

section Half

variable {distance magnitude : ℚ}

/-- A number is nearest to what is at most half the way to the one above. -/
theorem Canonical.isNearest_add
    (precise : 1 ≤ shape.precision)
    (canonical : shape.Canonical exponent significand)
    (nonneg : 0 ≤ distance)
    (close : distance ≤ shape.unit exponent / 2)
    (even : distance = shape.unit exponent / 2 → Even significand) :
    shape.IsNearest (significand * shape.unit exponent + distance)
      (significand * shape.unit exponent) significand := by
  have own :
      |(significand : ℚ) * shape.unit exponent + distance -
          significand * shape.unit exponent| = distance := by
    rw [add_sub_cancel_left, abs_of_nonneg nonneg]
  constructor
  · exact canonical.holds
  · intro other held
    rw [own]
    rcases lt_trichotomy other (significand * shape.unit exponent) with
      below | rfl | above
    · apply le_abs.mpr
      left
      linarith
    · exact own.ge
    · have apart := canonical.add_unit_le precise held above
      apply le_abs.mpr
      right
      linarith
  · intro other held different tie
    rw [own] at tie
    apply even
    rcases different.lt_or_gt with below | above
    · have away := le_abs_self
        ((significand : ℚ) * shape.unit exponent + distance - other)
      linarith
    · have apart := canonical.add_unit_le precise held above
      have away := neg_le_abs
        ((significand : ℚ) * shape.unit exponent + distance - other)
      linarith

/-- A number is nearest to what is at most half the way to the one below. -/
theorem Canonical.isNearest_sub
    (precise : 2 ≤ shape.precision)
    (canonical : shape.Canonical exponent significand)
    (nonneg : 0 ≤ distance)
    (close :
      distance ≤ shape.unit (shape.placeBelow exponent significand) / 2)
    (even : distance = shape.unit exponent / 2 → Even significand) :
    shape.IsNearest (significand * shape.unit exponent - distance)
      (significand * shape.unit exponent) significand := by
  have own :
      |(significand : ℚ) * shape.unit exponent - distance -
          significand * shape.unit exponent| = distance := by
    rw [sub_sub_cancel_left, abs_neg, abs_of_nonneg nonneg]
  constructor
  · exact canonical.holds
  · intro other held
    rw [own]
    rcases lt_trichotomy other (significand * shape.unit exponent) with
      below | rfl | above
    · have apart := canonical.le_sub_unit (by omega) held below
      apply le_abs.mpr
      left
      linarith
    · exact own.ge
    · apply le_abs.mpr
      right
      linarith
  · intro other held different tie
    rw [own] at tie
    rcases different.lt_or_gt with below | above
    · have apart := canonical.le_sub_unit (by omega) held below
      have away := le_abs_self
        ((significand : ℚ) * shape.unit exponent - distance - other)
      have half :
          distance = shape.unit (shape.placeBelow exponent significand) / 2 := by
        linarith
      by_contra uneven
      have odd : Odd significand := Nat.not_even_iff_odd.mp uneven
      rw [placeBelow_of_odd precise odd] at half
      exact uneven (even half)
    · have away := neg_le_abs
        ((significand : ℚ) * shape.unit exponent - distance - other)
      linarith

/--
Less than half a unit above a number nothing overflows, and in the middle
nothing does if the number is even.
-/
theorem Canonical.add_lt_overflowBound
    (precise : 1 ≤ shape.precision)
    (canonical : shape.Canonical exponent significand)
    (close : distance ≤ shape.unit exponent / 2)
    (even : distance = shape.unit exponent / 2 → Even significand) :
    significand * shape.unit exponent + distance < shape.overflowBound := by
  have positive := shape.unit_pos exponent
  have top : shape.unit exponent ≤ shape.unit shape.maxExponent := by
    have inside := canonical.le_maxExponent
    exact zpow_le_zpow_right₀ one_le_two (by omega)
  have bits : (significand : ℚ) + 1 ≤ 2 ^ shape.precision := by
    exact_mod_cast canonical.significand_lt
  have whole :
      ((significand : ℚ) + 1 / 2) * shape.unit exponent ≤
        shape.overflowBound := by
    rw [overflowBound_eq]
    exact mul_le_mul (by linarith) top positive.le (by linarith)
  rcases close.lt_or_eq with inside | half
  · linarith
  · have short : (significand : ℚ) + 2 ≤ 2 ^ shape.precision := by
      have power : Even (2 ^ shape.precision) :=
        Nat.even_pow.mpr ⟨even_two, by omega⟩
      have bound := canonical.significand_lt
      have apart : significand + 1 ≠ 2 ^ shape.precision := by
        intro last
        rw [← last, Nat.even_add_one] at power
        exact power (even half)
      exact_mod_cast (by omega : significand + 2 ≤ 2 ^ shape.precision)
    have strict :
        ((significand : ℚ) + 3 / 2) * shape.unit exponent ≤
          shape.overflowBound := by
      rw [overflowBound_eq]
      exact mul_le_mul (by linarith) top positive.le (by linarith)
    linarith

/-- A sum with at most half a unit is rounded back, unless a tie goes away. -/
theorem Canonical.rounds_back_add_iff
    (precise : 1 ≤ shape.precision)
    (canonical : shape.Canonical exponent significand)
    (nonneg : 0 ≤ distance)
    (close : distance ≤ shape.unit exponent / 2) :
    (significand * shape.unit exponent + distance < shape.overflowBound ∧
        shape.IsNearest (significand * shape.unit exponent + distance)
          (significand * shape.unit exponent) significand) ↔
      (distance = shape.unit exponent / 2 → Even significand) := by
  constructor
  · rintro ⟨finite, nearest⟩ half
    rcases canonical.holds_add_unit precise with held | bound
    · have positive := shape.unit_pos exponent
      have middle (way : ℚ) :
          |(significand : ℚ) * shape.unit exponent + distance -
              (significand * shape.unit exponent + way)| =
            |distance - way| := by
        rw [add_sub_add_left_eq_sub]
      apply nearest.even _ held (by linarith)
      have own := middle 0
      rw [add_zero, sub_zero] at own
      rw [middle, own, half, abs_sub_comm, sub_half]
    · rw [half] at finite
      exact absurd bound finite.ne'
  · intro even
    exact ⟨canonical.add_lt_overflowBound precise close even,
      canonical.isNearest_add precise nonneg close even⟩

/-- A difference with at most half the unit below is rounded back likewise. -/
theorem Canonical.rounds_back_sub_iff
    (precise : 2 ≤ shape.precision)
    (canonical : shape.Canonical exponent significand)
    (nonneg : 0 ≤ distance)
    (close :
      distance ≤ shape.unit (shape.placeBelow exponent significand) / 2) :
    (significand * shape.unit exponent - distance < shape.overflowBound ∧
        shape.IsNearest (significand * shape.unit exponent - distance)
          (significand * shape.unit exponent) significand) ↔
      (distance = shape.unit exponent / 2 → Even significand) := by
  constructor
  · rintro ⟨-, nearest⟩ half
    by_cases zero : significand = 0
    · rw [zero]
      exact Even.zero
    · have positive := shape.unit_pos exponent
      have whole :
          shape.unit (shape.placeBelow exponent significand) =
            shape.unit exponent := by
        apply le_antisymm (shape.unit_placeBelow_le exponent significand)
        linarith
      have held := canonical.holds_sub_unit (by omega) zero
      rw [whole] at held
      apply nearest.even _ held (by linarith)
      rw [half, sub_sub_sub_cancel_left, sub_sub_cancel_left, abs_neg]
      congr 1
      ring
  · intro even
    constructor
    · have below := canonical.lt_overflowBound
      linarith
    · exact canonical.isNearest_sub precise nonneg close even

/-- A magnitude is at most half a unit above the number nearest to it. -/
theorem IsNearest.sub_le_half
    (nearest :
      shape.IsNearest magnitude (significand * shape.unit exponent) significand)
    (precise : 1 ≤ shape.precision)
    (canonical : shape.Canonical exponent significand)
    (finite : magnitude < shape.overflowBound) :
    magnitude - significand * shape.unit exponent ≤
      shape.unit exponent / 2 := by
  have positive := shape.unit_pos exponent
  rcases canonical.holds_add_unit precise with held | bound
  · have near := nearest.nearest _ held
    by_contra far
    rw [not_le] at far
    rw [abs_of_pos (by linarith)] at near
    have closer :
        |magnitude -
            (significand * shape.unit exponent + shape.unit exponent)| <
          magnitude - significand * shape.unit exponent := by
      rw [abs_lt]
      constructor <;> linarith
    exact absurd near (not_le.mpr closer)
  · linarith

/-- A magnitude is at most half the unit there below the number nearest to it. -/
theorem IsNearest.le_half_below
    (nearest :
      shape.IsNearest magnitude (significand * shape.unit exponent) significand)
    (precise : 1 ≤ shape.precision)
    (canonical : shape.Canonical exponent significand)
    (nonneg : 0 ≤ magnitude) :
    significand * shape.unit exponent - magnitude ≤
      shape.unit (shape.placeBelow exponent significand) / 2 := by
  have positive := shape.unit_pos (shape.placeBelow exponent significand)
  by_cases zero : significand = 0
  · rw [zero, Nat.cast_zero, zero_mul]
    linarith [shape.unit_pos (shape.placeBelow exponent 0)]
  · have near := nearest.nearest _ (canonical.holds_sub_unit precise zero)
    by_contra far
    rw [not_le] at far
    rw [abs_of_neg (by linarith)] at near
    have closer :
        |magnitude - (significand * shape.unit exponent -
            shape.unit (shape.placeBelow exponent significand))| <
          -(magnitude - significand * shape.unit exponent) := by
      rw [abs_lt]
      constructor <;> linarith
    exact absurd near (not_le.mpr closer)

/-- A magnitude is at most half a unit away from the number nearest to it. -/
theorem IsNearest.abs_sub_le_half
    (nearest :
      shape.IsNearest magnitude (significand * shape.unit exponent) significand)
    (precise : 1 ≤ shape.precision)
    (canonical : shape.Canonical exponent significand)
    (nonneg : 0 ≤ magnitude)
    (finite : magnitude < shape.overflowBound) :
    |magnitude - significand * shape.unit exponent| ≤
      shape.unit exponent / 2 := by
  have above := nearest.sub_le_half precise canonical finite
  have below := nearest.le_half_below precise canonical nonneg
  have shorter := shape.unit_placeBelow_le exponent significand
  rw [abs_le]
  constructor <;> linarith

end Half

/-! ## Half a unit as a bound -/

section Bound

variable {magnitude : ℚ} {place : ℤ}

/-- Rounding does not exceed a number of the shape. -/
theorem IsNearest.le_of_holds
    {value bound : ℚ}
    (nearest : shape.IsNearest magnitude value significand)
    (held : shape.Holds bound)
    (le : magnitude ≤ bound) :
    value ≤ bound := by
  by_contra above
  rw [not_le] at above
  have near := nearest.nearest bound held
  rw [abs_of_neg (by linarith), abs_of_nonpos (by linarith)] at near
  linarith

/-- Half of the least unit or less is rounded to zero. -/
theorem RoundsTo.eq_zero_of_le
    (nearest :
      shape.RoundsTo magnitude (significand * shape.unit exponent) significand)
    (canonical : shape.Canonical exponent significand)
    (nonneg : 0 ≤ magnitude)
    (le : magnitude ≤ shape.unit shape.minExponent / 2) :
    significand = 0 := by
  have positive := shape.unit_pos exponent
  have least : shape.unit shape.minExponent ≤ shape.unit exponent := by
    have low := canonical.minExponent_le
    exact zpow_le_zpow_right₀ one_le_two (by omega)
  have zero : shape.Holds 0 :=
    holds_zero (canonical.minExponent_le.trans canonical.le_maxExponent)
  have near := nearest.nearest 0 zero
  rw [sub_zero, abs_of_nonneg nonneg] at near
  by_contra nonzero
  have one : (1 : ℚ) ≤ significand := by
    exact_mod_cast Nat.one_le_iff_ne_zero.mpr nonzero
  have large := mul_le_mul_of_nonneg_right one positive.le
  -- the number would be the least unit, with zero at the same distance
  have away := neg_le_abs (magnitude - significand * shape.unit exponent)
  have tie :
      |magnitude - 0| =
        |magnitude - significand * shape.unit exponent| := by
    rw [sub_zero, abs_of_nonneg nonneg]
    linarith
  have different : (0 : ℚ) ≠ significand * shape.unit exponent := by
    linarith
  have even : Even significand := by
    refine (nearest.even 0 zero different tie).resolve_right ?_
    rintro ⟨-, double⟩
    rw [mul_zero] at double
    exact different double.symm
  have same : (significand : ℚ) * shape.unit exponent = shape.unit exponent := by
    linarith
  have single : significand = 1 := by
    exact_mod_cast (mul_eq_right₀ positive.ne').mp same
  rw [single] at even
  exact Nat.not_even_one even

/-- Half a unit is below the overflow bound. -/
theorem half_unit_lt_overflowBound
    (precise : 1 ≤ shape.precision)
    (high : place ≤ shape.maxExponent) :
    shape.unit place / 2 < shape.overflowBound := by
  have positive := shape.unit_pos shape.maxExponent
  have top : shape.unit place ≤ shape.unit shape.maxExponent :=
    zpow_le_zpow_right₀ one_le_two (by omega)
  have bits : (2 : ℚ) ≤ 2 ^ shape.precision :=
    le_self_pow₀ one_le_two (by omega)
  have scaled := mul_le_mul_of_nonneg_right bits positive.le
  rw [overflowBound_eq]
  linarith

/-- Rounding does not exceed half a unit, though no number may be there. -/
theorem IsNearest.le_half_unit
    (nearest :
      shape.IsNearest magnitude (significand * shape.unit exponent) significand)
    (precise : 1 ≤ shape.precision)
    (canonical : shape.Canonical exponent significand)
    (nonneg : 0 ≤ magnitude)
    (low : shape.minExponent ≤ place)
    (high : place ≤ shape.maxExponent)
    (le : magnitude ≤ shape.unit place / 2) :
    significand * shape.unit exponent ≤ shape.unit place / 2 := by
  have positive := shape.unit_pos place
  rcases low.lt_or_eq with normal | rfl
  · apply nearest.le_of_holds _ le
    refine ⟨1, place - 1, Nat.one_lt_two_pow (by omega), by omega, by omega, ?_⟩
    rw [unit_pred, Nat.cast_one, one_mul]
  · rw [nearest.roundsTo.eq_zero_of_le canonical nonneg le, Nat.cast_zero, zero_mul]
    linarith

end Bound

end CallFrame.Shape
