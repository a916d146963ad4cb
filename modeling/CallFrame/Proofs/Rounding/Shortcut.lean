import CallFrame.Proofs.Rounding.Exact
import CallFrame.Proofs.Rounding.Grammar

/-!
# The shortcuts of decimal numbers

A decimal number is not always expanded.  The place of its first digit may decide
that it is infinite or zero in every format, and an exponent that is written too
large has been replaced by a bound before anything is compared.  None of this
changes a result: the number is rounded as every ratio is that has the written
magnitude, in each of the formats.

What a ratio is rounded to depends on its value alone, although the exponent is
found from the lengths of the two numbers of the ratio.  So an expanded number,
whose ratio need not be the one that it is compared with, is rounded like that
one.  A number that took a shortcut is compared through the bounds from which on
every ratio is infinite and up to which it is zero.

The exponent that replaces the written one may itself be too large to expand.
The digits of a short text are too few to bring such a number back between the
shortcuts, so that an expansion is never refused.
-/

namespace CallFrame

/-! ## Ratios of one value -/

namespace Ratio

variable {left right : Ratio}

theorem numerator_eq_zero_iff (ratio : Ratio) :
    ratio.numerator = 0 ↔ ratio.value = 0 := by
  rw [← isZero_iff, isZero, beq_iff_eq]

theorem numerator_eq_zero_congr (same : left.value = right.value) :
    left.numerator = 0 ↔ right.numerator = 0 := by
  rw [numerator_eq_zero_iff, numerator_eq_zero_iff, same]

/-- Ratios of one value have the same exponent. -/
theorem log2_congr
    (same : left.value = right.value)
    (nonzero : left.numerator ≠ 0) :
    left.log2 = right.log2 := by
  have rightNonzero := mt (numerator_eq_zero_congr same).mpr nonzero
  rw [log2_eq_floor_logb nonzero, log2_eq_floor_logb rightNonzero, same]

/-- Ratios of one value have the same nearest number of units. -/
theorem nearest_congr
    (same : left.value = right.value)
    (shape : Shape)
    (exponent : ℤ) :
    (left.scaled ((shape.precision : ℤ) - 1 - exponent)).nearest =
      (right.scaled ((shape.precision : ℤ) - 1 - exponent)).nearest := by
  have leftNearest := left.isNearestInteger_scaled shape exponent
  rw [same] at leftNearest
  exact leftNearest.unique (right.isNearestInteger_scaled shape exponent)

/-- What a ratio is rounded to depends on its value alone. -/
theorem round_congr
    (same : left.value = right.value)
    (shape : Shape) :
    left.round shape = right.round shape := by
  by_cases zero : left.numerator = 0
  · have rightZero := (numerator_eq_zero_congr same).mp zero
    rw [round_of_numerator_eq_zero zero, round_of_numerator_eq_zero rightZero]
  · have rightNonzero := mt (numerator_eq_zero_congr same).mpr zero
    rw [round_eq_assemble zero, round_eq_assemble rightNonzero,
      log2_congr same zero, nearest_congr same]

end Ratio

/-! ## Shortcuts -/

namespace Shape

/-- The shapes that numbers are rounded to. -/
def formats : List Shape :=
  [binary64, x87, binary128]

theorem supported_of_mem_formats
    {shape : Shape}
    (member : shape ∈ formats) :
    shape.Supported := by
  simp only [formats, List.mem_cons, List.not_mem_nil, or_false] at member
  rcases member with rfl | rfl | rfl
  · exact supported_binary64
  · exact supported_x87
  · exact supported_binary128

end Shape

namespace Ratio

variable {ratio : Ratio} {shape : Shape}

/-- Where infinity is correct, every ratio of that value is rounded to it. -/
theorem round_eq_infinite_of_correct
    (supported : shape.Supported)
    (correct : Rounded.infinite.Correct shape ratio.value) :
    ratio.round shape = .infinite := by
  have precise := supported.precise
  have narrow := supported.narrow
  exact (round_eq_infinite_iff (by omega) (by omega) supported.range).mpr correct

/-- Where zero is correct, every ratio of that value is rounded to it. -/
theorem round_eq_zero_of_correct
    (supported : shape.Supported)
    (correct : Rounded.zero.Correct shape ratio.value) :
    ratio.round shape = .zero := by
  have precise := supported.precise
  have narrow := supported.narrow
  apply (round_eq_zero_iff (by omega) (by omega) supported.range).mpr
  exact correct.2.roundsTo.le_half_unit (by omega) supported.range
    ratio.value_nonneg

end Ratio

namespace Decimal

/--
A decimal number stands for a value if its shortcuts and its expansion agree with
that value: it is rounded as the ratios of the value are, its expansion is never
refused, and what it keeps of its magnitude is exact or has been decided.
-/
structure StandsFor (decimal : Decimal) (value : ℚ) : Prop where
  round_eq :
    ∀ shape ∈ Shape.formats, ∀ ratio : Ratio, ratio.value = value →
      decimal.round shape = ratio.round shape
  fits :
    decimal.significant ≠ 0 →
      ¬ overflowDigits < decimal.scale →
        ¬ decimal.scale < underflowDigits →
          decimal.exponent.natAbs < UInt32.size
  infinite :
    decimal.magnitude = none →
      ∀ shape ∈ Shape.formats, ∀ ratio : Ratio, ratio.value = value →
        ratio.round shape = .infinite
  zero :
    ∀ kept, decimal.magnitude = some kept → kept.isZero = true →
      ∀ shape ∈ Shape.formats, ∀ ratio : Ratio, ratio.value = value →
        ratio.round shape = .zero
  exact :
    ∀ kept, decimal.magnitude = some kept → kept.isZero = false →
      kept.value = value

variable {decimal : Decimal} {value : ℚ}

/-- A decimal number is rounded as the ratios of its value are. -/
theorem round_eq_round
    {shape : Shape}
    {ratio : Ratio}
    (counted : decimal.Counted)
    (denotes : decimal.Denotes value)
    (supported : shape.Supported)
    (exact : ratio.value = value) :
    decimal.round shape = ratio.round shape := by
  subst exact
  rw [round]
  rcases magnitude_cases counted denotes with
    ⟨expanded, kept, same⟩ | ⟨kept, correct⟩ | ⟨kept, correct⟩
  · rw [kept]
    exact Ratio.round_congr same shape
  · rw [kept, Ratio.round_eq_zero_of_correct supported (correct shape supported)]
    exact Ratio.round_of_numerator_eq_zero rfl shape
  · rw [kept,
      Ratio.round_eq_infinite_of_correct supported (correct shape supported)]

/-- A decimal number stands for what it denotes. -/
theorem Counted.standsFor
    (counted : decimal.Counted)
    (denotes : decimal.Denotes value) :
    decimal.StandsFor value where
  round_eq shape member ratio exact :=
    round_eq_round counted denotes (Shape.supported_of_mem_formats member) exact
  fits _ low high :=
    counted.natAbs_exponent_lt (mt overflowDigits_lt_scale_iff.mpr low)
      (mt scale_lt_underflowDigits_iff.mpr high)
  infinite overflows shape member ratio exact := by
    have supported := Shape.supported_of_mem_formats member
    rw [← round_eq_round counted denotes supported exact, round, overflows]
  zero kept magnitude isZero shape member ratio exact := by
    have supported := Shape.supported_of_mem_formats member
    rw [← round_eq_round counted denotes supported exact, round, magnitude]
    exact Ratio.round_of_numerator_eq_zero (beq_iff_eq.mp isZero) shape
  exact _ := value_of_magnitude counted denotes

end Decimal

/-! ## Texts -/

namespace WrittenDecimal

/-- The ratio that a number is written as. -/
def ratio (written : WrittenDecimal) : Ratio :=
  .ofDecimal (numberOfDigits written.digits)
    (written.exponent - written.fraction.length)

theorem value_ratio (written : WrittenDecimal) :
    written.ratio.value = written.magnitude :=
  Ratio.value_ofDecimal _ _

end WrittenDecimal

/--
The number that is read from a short text stands for the number that is written
there, however many digits it has and however large its exponent is.
-/
theorem shortcuts_keep_rounding
    (text : String)
    (short : text.utf8ByteSize < 2 ^ 31)
    {decimal : Decimal}
    (parsed : Literal.parseDecimal text.toList = some decimal) :
    (∃ written : WrittenDecimal, written.render = text.toList) ∧
      ∀ written : WrittenDecimal, written.render = text.toList →
        written.ratio.value = written.magnitude ∧
          decimal.StandsFor written.magnitude := by
  refine ⟨Literal.exists_render_of_parseDecimal parsed, ?_⟩
  intro written rendered
  have few : written.digits.length < 2 ^ 31 := by
    apply WrittenDecimal.length_digits_lt _ short
    rw [rendered]
  have same : decimal = written.decimal := by
    rw [← rendered, written.parseDecimal_render] at parsed
    exact (Option.some.inj parsed).symm
  rw [same]
  exact ⟨written.value_ratio,
    (written.counted_decimal few).standsFor (written.denotes_decimal few)⟩

/-- A number whose exponent is out of bounds, even after it has been cut off. -/
def vanishingNumber : WrittenDecimal where
  sign := .minus
  whole := [Fin.last 9, Fin.last 9]
  fraction? := some [Fin.last 9]
  exponent? := some ⟨false, .minus, List.replicate 11 (Fin.last 9), by decide⟩
  nonempty := by decide

theorem vanishingNumber_keeps_rounding :
    ∃ decimal,
      Literal.parseDecimal "-99.9e-99999999999".toList = some decimal ∧
        UInt32.size ≤ decimal.exponent.natAbs ∧
        ∀ shape ∈ Shape.formats,
          decimal.round shape = vanishingNumber.ratio.round shape ∧
            vanishingNumber.ratio.round shape = .zero := by
  have short : "-99.9e-99999999999".utf8ByteSize < 2 ^ 31 := by decide +kernel
  have rendered :
      vanishingNumber.render = "-99.9e-99999999999".toList := by
    decide +kernel
  have parsed :
      Literal.parseDecimal "-99.9e-99999999999".toList =
        some ⟨true, 999, -4294967296, 3⟩ := by
    decide +kernel
  obtain ⟨-, stands⟩ :=
    shortcuts_keep_rounding "-99.9e-99999999999" short parsed
  obtain ⟨value, standsFor⟩ := stands vanishingNumber rendered
  refine ⟨_, parsed, by decide, fun shape member => ⟨?_, ?_⟩⟩
  · exact standsFor.round_eq shape member vanishingNumber.ratio value
  · exact standsFor.zero .zero (by decide +kernel) rfl shape member
      vanishingNumber.ratio value

end CallFrame
