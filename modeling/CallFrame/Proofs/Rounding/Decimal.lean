import CallFrame.Decimal
import CallFrame.Proofs.Rounding.AnyShape

/-!
# Rounding of decimal numbers

A decimal number is rounded through its exact magnitude, unless the place of its
first digit already decides.  The two shortcuts are sound for every shape whose
exponents are those of quadruple precision or narrower: what has more than 4940
digits before its point is beyond the overflow bound, and what starts more than
4980 places behind its point is below half of the least number.

A decimal number may have lost an exponent that was too large to be kept.  It
still denotes the magnitude that was written if the exponent that took its place
leads to the same shortcut.
-/

namespace CallFrame

/-- The shapes for which the shortcuts of decimal numbers are sound. -/
structure Shape.Supported (shape : Shape) : Prop where
  precise : 2 ≤ shape.precision
  narrow : shape.precision ≤ 113
  range : shape.minExponent ≤ shape.maxExponent
  largest : shape.maxExponent ≤ 16383
  least : -16382 ≤ shape.minExponent

namespace Shape

theorem supported_binary64 : binary64.Supported := by
  constructor <;> decide

theorem supported_x87 : x87.Supported := by
  constructor <;> decide

theorem supported_binary128 : binary128.Supported := by
  constructor <;> decide

theorem two_zpow_le_ten_zpow : (2 : ℚ) ^ (16384 : ℤ) ≤ 10 ^ (4940 : ℤ) := by
  have powers : 2 ^ 16384 ≤ 10 ^ 4940 := by decide +kernel
  exact_mod_cast powers

theorem ten_zpow_le_two_zpow :
    (10 : ℚ) ^ (-4981 : ℤ) ≤ 2 ^ (-16495 : ℤ) := by
  have powers : 2 ^ 16495 ≤ 10 ^ 4981 := by decide +kernel
  rw [zpow_neg, zpow_neg]
  apply inv_anti₀ (by positivity)
  exact_mod_cast powers

theorem Supported.two_zpow_le_half_unit
    {shape : Shape}
    (supported : shape.Supported) :
    2 ^ (-16495 : ℤ) ≤ shape.unit shape.minExponent / 2 := by
  have narrow := supported.narrow
  have least := supported.least
  rw [unit, div_eq_mul_inv, ← zpow_sub_one₀ two_ne_zero]
  exact zpow_le_zpow_right₀ one_le_two (by omega)

end Shape

theorem cast_powerOfTen (exponent : ℕ) :
    (powerOfTen exponent : ℚ) = 10 ^ exponent := by
  exact_mod_cast (rfl : powerOfTen exponent = 10 ^ exponent)

/-- The ratio `digits * 10 ^ exponent`. -/
def Ratio.ofDecimal (digits : ℕ) (exponent : ℤ) : Ratio :=
  if 0 ≤ exponent then ofNat (digits * powerOfTen exponent.natAbs)
  else ⟨digits, powerOfTen exponent.natAbs, powerOfTen_pos _⟩

theorem Ratio.value_ofDecimal (digits : ℕ) (exponent : ℤ) :
    (ofDecimal digits exponent).value = digits * 10 ^ exponent := by
  rw [ofDecimal]
  by_cases up : 0 ≤ exponent
  · have power : (10 : ℚ) ^ exponent = 10 ^ exponent.natAbs := by
      rw [← zpow_natCast, Int.natAbs_of_nonneg up]
    rw [if_pos up, value, ofNat, Nat.cast_one, div_one, Nat.cast_mul,
      cast_powerOfTen, power]
  · have power : (10 : ℚ) ^ exponent = (10 ^ exponent.natAbs)⁻¹ := by
      rw [← zpow_natCast, ← zpow_neg, Int.ofNat_natAbs_of_nonpos (by omega),
        neg_neg]
    rw [if_neg up, value, cast_powerOfTen, power, div_eq_mul_inv]

namespace Decimal

/-! ## Place of the first digit -/

/-- The digits of a decimal number are counted, without leading zeros. -/
structure Counted (decimal : Decimal) : Prop where
  pow_le :
    decimal.significant ≠ 0 →
      10 ^ (decimal.significant - 1) ≤ decimal.digits
  lt_pow : decimal.digits < 10 ^ decimal.significant
  short : decimal.significant < 2 ^ 31

variable {decimal : Decimal} {shape : Shape} {exponent : ℤ}

theorem Counted.le_magnitude
    (counted : decimal.Counted)
    (nonzero : decimal.significant ≠ 0)
    (exponent : ℤ) :
    (10 : ℚ) ^ ((decimal.significant : ℤ) + exponent - 1) ≤
      decimal.digits * 10 ^ exponent := by
  have digits : (10 : ℚ) ^ (decimal.significant - 1) ≤ decimal.digits := by
    exact_mod_cast counted.pow_le nonzero
  calc (10 : ℚ) ^ ((decimal.significant : ℤ) + exponent - 1)
      = 10 ^ (decimal.significant - 1) * 10 ^ exponent := by
        rw [← zpow_natCast, ← zpow_add₀ (by norm_num)]
        congr 1
        push_cast [Nat.one_le_iff_ne_zero.mpr nonzero]
        ring
    _ ≤ decimal.digits * 10 ^ exponent := by gcongr

theorem Counted.magnitude_lt
    (counted : decimal.Counted)
    (exponent : ℤ) :
    (decimal.digits : ℚ) * 10 ^ exponent <
      10 ^ ((decimal.significant : ℤ) + exponent) := by
  have digits : (decimal.digits : ℚ) < 10 ^ decimal.significant := by
    exact_mod_cast counted.lt_pow
  rw [zpow_add₀ (by norm_num), zpow_natCast]
  gcongr

/-- A number with too many digits before its point is rounded to infinity. -/
theorem Counted.correct_of_overflow
    (counted : decimal.Counted)
    (supported : shape.Supported)
    (nonzero : decimal.significant ≠ 0)
    (past : overflowDigits < (decimal.significant : ℤ) + exponent) :
    Rounded.infinite.Correct shape (decimal.digits * 10 ^ exponent) := by
  have largest := supported.largest
  calc shape.overflowBound
      ≤ 2 ^ (shape.maxExponent + 1) := shape.overflowBound_le
    _ ≤ 2 ^ (16384 : ℤ) := zpow_le_zpow_right₀ one_le_two (by omega)
    _ ≤ 10 ^ overflowDigits := Shape.two_zpow_le_ten_zpow
    _ ≤ 10 ^ ((decimal.significant : ℤ) + exponent - 1) :=
        zpow_le_zpow_right₀ (by norm_num) (by omega)
    _ ≤ decimal.digits * 10 ^ exponent := counted.le_magnitude nonzero exponent

/-- A number that starts too far behind its point is rounded to zero. -/
theorem Counted.correct_of_underflow
    (counted : decimal.Counted)
    (supported : shape.Supported)
    (past : (decimal.significant : ℤ) + exponent < underflowDigits) :
    Rounded.zero.Correct shape (decimal.digits * 10 ^ exponent) := by
  have precise := supported.precise
  apply Rounded.correct_zero (by omega) supported.range (by positivity)
  have place : (decimal.significant : ℤ) + exponent ≤ -4981 := by
    rw [underflowDigits] at past
    omega
  calc (decimal.digits : ℚ) * 10 ^ exponent
      ≤ 10 ^ ((decimal.significant : ℤ) + exponent) :=
        (counted.magnitude_lt exponent).le
    _ ≤ 10 ^ (-4981 : ℤ) := zpow_le_zpow_right₀ (by norm_num) place
    _ ≤ 2 ^ (-16495 : ℤ) := Shape.ten_zpow_le_two_zpow
    _ ≤ shape.unit shape.minExponent / 2 := supported.two_zpow_le_half_unit

/-! ## Exact magnitude -/

theorem saturate_eq (exponent : ℤ) :
    saturate exponent =
      max (-9223372036854775808) (min exponent 9223372036854775807) := rfl

theorem overflowDigits_lt_scale_iff :
    overflowDigits < decimal.scale ↔
      overflowDigits < (decimal.significant : ℤ) + decimal.exponent := by
  rw [scale, saturate_eq, overflowDigits]
  omega

theorem scale_lt_underflowDigits_iff :
    decimal.scale < underflowDigits ↔
      (decimal.significant : ℤ) + decimal.exponent < underflowDigits := by
  rw [scale, saturate_eq, underflowDigits]
  omega

/-- Between the shortcuts the exponent fits into 32 bits. -/
theorem Counted.natAbs_exponent_lt
    (counted : decimal.Counted)
    (low :
      ¬ overflowDigits < (decimal.significant : ℤ) + decimal.exponent)
    (high :
      ¬ (decimal.significant : ℤ) + decimal.exponent < underflowDigits) :
    decimal.exponent.natAbs < UInt32.size := by
  have short := counted.short
  rw [overflowDigits] at low
  rw [underflowDigits] at high
  rw [UInt32.size]
  omega

/-- Between the shortcuts the magnitude is exact. -/
theorem exists_magnitude
    (counted : decimal.Counted)
    (nonzero : decimal.significant ≠ 0)
    (low :
      ¬ overflowDigits < (decimal.significant : ℤ) + decimal.exponent)
    (high :
      ¬ (decimal.significant : ℤ) + decimal.exponent < underflowDigits) :
    ∃ ratio, decimal.magnitude = some ratio ∧
      ratio.value = decimal.digits * 10 ^ decimal.exponent := by
  refine ⟨.ofDecimal decimal.digits decimal.exponent, ?_,
    Ratio.value_ofDecimal _ _⟩
  rw [magnitude, if_neg nonzero,
    if_neg (mt overflowDigits_lt_scale_iff.mp low),
    if_neg (mt scale_lt_underflowDigits_iff.mp high),
    if_neg (not_le.mpr (counted.natAbs_exponent_lt low high)), Ratio.ofDecimal]
  exact (apply_ite some _ _ _).symm

/-! ## Rounding -/

/--
A decimal number denotes a magnitude if its exponent is that of the magnitude,
or if both exponents lead to the same shortcut.
-/
def Denotes (decimal : Decimal) (magnitude : ℚ) : Prop :=
  ∃ exponent : ℤ,
    magnitude = decimal.digits * 10 ^ exponent ∧
      (exponent = decimal.exponent ∨
        overflowDigits <
            (decimal.significant : ℤ) + min exponent decimal.exponent ∨
          (decimal.significant : ℤ) + max exponent decimal.exponent <
            underflowDigits)

/--
The magnitude that is kept is exact, or a shortcut has decided what it is rounded
to in every supported shape.
-/
theorem magnitude_cases
    {value : ℚ}
    (counted : decimal.Counted)
    (denotes : decimal.Denotes value) :
    (∃ ratio, decimal.magnitude = some ratio ∧ ratio.value = value) ∨
      (decimal.magnitude = some .zero ∧
        ∀ shape : Shape, shape.Supported → Rounded.zero.Correct shape value) ∨
      (decimal.magnitude = none ∧
        ∀ shape : Shape, shape.Supported →
          Rounded.infinite.Correct shape value) := by
  obtain ⟨exponent, rfl, known⟩ := denotes
  by_cases zero : decimal.significant = 0
  · left
    have none : decimal.digits = 0 := by
      have bound := counted.lt_pow
      rw [zero] at bound
      omega
    refine ⟨.zero, ?_, ?_⟩
    · rw [magnitude, if_pos zero]
    · rw [Ratio.value, Ratio.zero, none, Nat.cast_zero, zero_div, zero_mul]
  · by_cases past :
        overflowDigits < (decimal.significant : ℤ) + decimal.exponent
    · right
      right
      constructor
      · rw [magnitude, if_neg zero,
          if_pos (overflowDigits_lt_scale_iff.mpr past)]
      · intro shape supported
        apply counted.correct_of_overflow supported zero
        rw [overflowDigits] at past known ⊢
        rw [underflowDigits] at known
        omega
    · by_cases behind :
          (decimal.significant : ℤ) + decimal.exponent < underflowDigits
      · right
        left
        constructor
        · rw [magnitude, if_neg zero,
            if_neg (mt overflowDigits_lt_scale_iff.mp past),
            if_pos (scale_lt_underflowDigits_iff.mpr behind)]
        · intro shape supported
          apply counted.correct_of_underflow supported
          rw [overflowDigits] at past known
          rw [underflowDigits] at behind known ⊢
          omega
      · left
        have same : exponent = decimal.exponent := by
          rw [overflowDigits] at past known
          rw [underflowDigits] at behind known
          omega
        rw [same]
        exact exists_magnitude counted zero past behind

/-- A decimal number is rounded correctly. -/
theorem round_correct
    {value : ℚ}
    (counted : decimal.Counted)
    (denotes : decimal.Denotes value)
    (supported : shape.Supported) :
    (decimal.round shape).Correct shape value := by
  have narrow := supported.narrow
  rw [round]
  rcases magnitude_cases counted denotes with
    ⟨ratio, kept, exact⟩ | ⟨kept, correct⟩ | ⟨kept, correct⟩
  · rw [kept, ← exact]
    exact ratio.round_correct supported.precise (by omega) supported.range
  · rw [kept]
    exact correct shape supported
  · rw [kept]
    exact correct shape supported

/-- A magnitude that is kept and is not zero has been expanded. -/
theorem value_of_magnitude
    {value : ℚ}
    {kept : Ratio}
    (counted : decimal.Counted)
    (denotes : decimal.Denotes value)
    (magnitude : decimal.magnitude = some kept)
    (nonzero : kept.isZero = false) :
    kept.value = value := by
  rcases magnitude_cases counted denotes with
    ⟨expanded, same, exact⟩ | ⟨shortcut, -⟩ | ⟨shortcut, -⟩
  · rwa [Option.some.inj (magnitude.symm.trans same)]
  · rw [Option.some.inj (magnitude.symm.trans shortcut)] at nonzero
    cases nonzero
  · cases magnitude.symm.trans shortcut

/-- What is rounded to neither zero nor infinity has been kept exactly. -/
theorem value_of_round_finite
    {value : ℚ}
    {ratio : Ratio}
    {significand : ℕ}
    (counted : decimal.Counted)
    (denotes : decimal.Denotes value)
    (kept : decimal.magnitude = some ratio)
    (finite : ratio.round shape = .finite exponent significand) :
    ratio.value = value := by
  apply value_of_magnitude counted denotes kept
  rw [Ratio.isZero, beq_eq_false_iff_ne]
  intro zero
  rw [Ratio.round_of_numerator_eq_zero zero] at finite
  cases finite

end Decimal

end CallFrame
