import CallFrame.Proofs.Rounding.Pair

/-!
# What the bytes of a double stand for

Bytes are decoded by what the format itself says of them.  Fields with the
largest exponent are infinite or not a number, and the fraction is read behind a
binary point then, so that its top bits count most.  All others are a signed
number, where a zero has a sign too.  A pair of doubles has the sign and the
class of its first part, and its number is the sum of both.

Encoding a double in any format keeps what it stands for.  A number keeps its
magnitude when its fields are widened, and a fraction keeps its place behind the
point.  Since no two doubles stand for the same, they have different bytes in
every format.  The extended format, which stores the leading bit, could hold a
number in several ways; what a double is encoded to is the canonical one.
-/

namespace CallFrame

open LongDoubleFormat (bytesOf)

/-! ## Decoding -/

/-- What a floating point number stands for. -/
inductive Datum where
  /-- A number with its sign, which a zero has as well. -/
  | finite (negative : Bool) (value : ℚ)
  | infinite (negative : Bool)
  /-- Not a number, with its fraction behind a binary point. -/
  | nan (negative : Bool) (fraction : ℚ)

/-- What the largest exponent stands for, by the fraction that is with it. -/
def Datum.special (negative : Bool) (fraction : ℚ) : Datum :=
  if fraction = 0 then .infinite negative else .nan negative fraction

/-- What the fields of a double stand for. -/
def BinaryFields.datum (fields : BinaryFields) : Datum :=
  if fields.exponent = infiniteExponent then
    .special fields.negative (fields.fraction / 2 ^ 52)
  else
    .finite fields.negative fields.value

/-- What the fields of a wide number stand for. -/
def WideFields.datum (fields : WideFields) (shape : Shape) : Datum :=
  if fields.exponent = infiniteExponent then
    .special fields.negative
      ((fields.significand % 2 ^ (shape.precision - 1) : ℕ) /
        2 ^ (shape.precision - 1))
  else
    .finite fields.negative (signed fields.negative (fields.magnitude shape))

/-- What a pair of doubles stands for. -/
def DoublePair.datum (pair : DoublePair) : Datum :=
  let high := BinaryFields.ofDouble pair.high
  if high.exponent = BinaryFields.infiniteExponent then high.datum
  else .finite high.negative pair.sum

/-- What the bytes at the start of a destination stand for in a format. -/
def LongDoubleFormat.decode
    (format : LongDoubleFormat)
    (order : ByteOrder)
    (bytes : List UInt8) :
    Datum :=
  match format with
  | double => (BinaryFields.ofDouble (readDouble order bytes 0)).datum
  | x87 => (readExtended bytes).datum .x87
  | binary128 => (readQuadruple order bytes).datum .binary128
  | doubleDouble => (readPair order bytes).datum

/-! ## Widening keeps what a double stands for -/

section Widen

namespace BinaryFields

variable {fields : BinaryFields}

/-- Fields with a fraction of 52 bits are finite if the bias is large enough. -/
theorem finite_of_fraction_lt (small : fields.fraction < 2 ^ 52) :
    fields.Finite fields.exponent :=
  ⟨small, by omega⟩

theorem widen_of_infinite (special : fields.exponent = infiniteExponent) :
    fields.widen = { fields with exponent := WideFields.infiniteExponent } := by
  have normal : fields.exponent ≠ 0 := by
    rw [special]
    decide
  rw [widen, if_neg normal]
  exact if_pos special

theorem exponent_widen_eq_zero_iff :
    fields.widen.exponent = 0 ↔ fields.significand = 0 := by
  rw [widen, significand]
  split_ifs with subnormal none special
  · omega
  · dsimp only
    omega
  · exact iff_of_false not_false (by omega)
  · exact iff_of_false not_false (by omega)

/-- Only the exponent of infinity is widened to the exponent of infinity. -/
theorem exponent_widen_cases (pattern : UInt64) :
    (ofDouble pattern).exponent = infiniteExponent ∧
        (ofDouble pattern).widen.exponent = WideFields.infiniteExponent ∨
      (ofDouble pattern).exponent ≠ infiniteExponent ∧
        (ofDouble pattern).widen.exponent < WideFields.infiniteExponent := by
  by_cases special : (ofDouble pattern).exponent = infiniteExponent
  · left
    rw [widen_of_infinite special]
    exact ⟨special, rfl⟩
  · right
    exact ⟨special,
      Nat.lt_succ_of_le (finite_ofDouble special).widen.exponent_le⟩

end BinaryFields

namespace WideFields

open BinaryFields (ofDouble)

variable {fields : BinaryFields}

@[simp]
theorem negative_ofFields
    (wide : WideFormat)
    (negative : Bool)
    (fields : BinaryFields) :
    (ofFields wide negative fields).negative = negative := rfl

@[simp]
theorem exponent_ofFields
    (wide : WideFormat)
    (negative : Bool)
    (fields : BinaryFields) :
    (ofFields wide negative fields).exponent = fields.exponent := rfl

theorem significand_ofFields_lt
    (wide : WideFormat)
    (negative : Bool)
    (small : fields.fraction < 2 ^ 52) :
    (ofFields wide negative fields).significand < 2 ^ wide.shape.precision := by
  have bounded := BinaryFields.finite_of_fraction_lt small
  have positive := Nat.two_pow_pos (wide.shape.precision - 53)
  calc fields.significand * 2 ^ (wide.shape.precision - 53)
      < 2 ^ 53 * 2 ^ (wide.shape.precision - 53) :=
        Nat.mul_lt_mul_of_pos_right bounded.significand_lt positive
    _ = 2 ^ wide.shape.precision := pow_mul_pow_sub 2 wide.biased.precise

/-- The leading bit is set for all but the smallest exponent. -/
theorem leading_ofFields_iff
    (wide : WideFormat)
    (negative : Bool)
    (small : fields.fraction < 2 ^ 52) :
    2 ^ (wide.shape.precision - 1) ≤
        (ofFields wide negative fields).significand ↔
      fields.exponent ≠ 0 := by
  have bounded := BinaryFields.finite_of_fraction_lt small
  have positive := Nat.two_pow_pos (wide.shape.precision - 53)
  rw [ofFields, BinaryFields.two_pow_leading_eq wide.biased,
    Nat.mul_le_mul_right_iff positive]
  constructor
  · intro leading subnormal
    have below := bounded.significand_lt_of_subnormal subnormal
    omega
  · exact BinaryFields.le_significand

theorem fraction_ofFields
    (wide : WideFormat)
    (negative : Bool)
    (small : fields.fraction < 2 ^ 52) :
    ((ofFields wide negative fields).significand %
        2 ^ (wide.shape.precision - 1) : ℕ) /
        (2 : ℚ) ^ (wide.shape.precision - 1) =
      fields.fraction / 2 ^ 52 := by
  have bounded := BinaryFields.finite_of_fraction_lt small
  have leading := BinaryFields.two_pow_leading_eq wide.biased
  have leadingCast :
      (2 : ℚ) ^ (wide.shape.precision - 1) =
        2 ^ 52 * 2 ^ (wide.shape.precision - 53) := by
    exact_mod_cast leading
  have positive : (2 : ℚ) ^ (wide.shape.precision - 53) ≠ 0 := by positivity
  rw [ofFields, leading, Nat.mul_mod_mul_right, bounded.significand_mod,
    leadingCast]
  push_cast
  exact mul_div_mul_right _ _ positive

theorem magnitude_ofFields
    (wide : WideFormat)
    (negative : Bool)
    (fields : BinaryFields) :
    (ofFields wide negative fields).magnitude wide.shape =
      fields.magnitude 16383 :=
  (BinaryFields.magnitude_eq wide.biased fields).symm

/-- In a wide format a double stands for the same. -/
theorem datum_ofFields_widen (wide : WideFormat) (pattern : UInt64) :
    (ofFields wide (ofDouble pattern).negative (ofDouble pattern).widen).datum
        wide.shape =
      (ofDouble pattern).datum := by
  have small := (BinaryFields.ofDouble_bounds pattern).2
  rw [datum, BinaryFields.datum, magnitude_ofFields,
    fraction_ofFields wide _ (BinaryFields.fraction_widen_lt small),
    exponent_ofFields, negative_ofFields]
  rcases BinaryFields.exponent_widen_cases pattern with
    ⟨special, widened⟩ | ⟨number, widened⟩
  · rw [if_pos special, if_pos widened, BinaryFields.widen_of_infinite special]
  · rw [if_neg number, if_neg widened.ne,
      (BinaryFields.finite_ofDouble number).magnitude_widen]
    rfl

end WideFields

end Widen

theorem DoublePair.datum_of_double (pattern : UInt64) :
    (DoublePair.mk pattern 0).datum = (BinaryFields.ofDouble pattern).datum := by
  rw [datum]
  dsimp only
  split_ifs with special
  · rfl
  · rw [BinaryFields.datum, if_neg special, sum,
      BinaryFields.value_ofDouble_zero, add_zero]

/-! ## Doubles stand for different things -/

namespace BinaryFields

theorem sign_eq_signBit
    {fields : BinaryFields}
    (sign : fields.sign < 2) :
    signBit fields.negative = fields.sign := by
  rcases (by omega : fields.sign = 0 ∨ fields.sign = 1) with zero | one
  · rw [negative, zero]
    rfl
  · rw [negative, one]
    rfl

/-- Only the two zeros have no bit in their significand. -/
theorem significand_ofDouble_eq_zero_iff {pattern : UInt64} :
    (ofDouble pattern).significand = 0 ↔
      pattern = 0 ∨ pattern = 0x8000000000000000 := by
  constructor
  · intro zero
    obtain ⟨exponent, fraction⟩ := fields_eq_zero zero
    have whole := toNat_eq pattern
    have sign := (ofDouble_bounds pattern).1
    rw [exponent, fraction, Nat.shiftLeft_eq, Nat.shiftLeft_eq] at whole
    rw [← UInt64.toNat_inj, ← UInt64.toNat_inj]
    show pattern.toNat = 0 ∨ pattern.toNat = 0x8000000000000000
    omega
  · rintro (rfl | rfl) <;> decide +kernel

/-- A finite double is known from its place and its significand. -/
theorem Finite.ext
    {left right : BinaryFields}
    {bias : ℕ}
    (finite : left.Finite bias)
    (other : right.Finite bias)
    (place : left.place bias = right.place bias)
    (significand : left.significand = right.significand) :
    left.exponent = right.exponent ∧ left.fraction = right.fraction := by
  have fraction : left.fraction = right.fraction := by
    rw [← finite.significand_mod, significand, other.significand_mod]
  refine ⟨?_, fraction⟩
  rw [BinaryFields.place, BinaryFields.place] at place
  rw [BinaryFields.significand, BinaryFields.significand, fraction] at significand
  split_ifs at significand <;> omega

/-- A finite double is known from its magnitude, but for its sign. -/
theorem Finite.eq_of_magnitude_eq
    {left right : BinaryFields}
    (finite : left.Finite 1023)
    (other : right.Finite 1023)
    (same : left.magnitude 1023 = right.magnitude 1023) :
    left.exponent = right.exponent ∧ left.fraction = right.fraction := by
  obtain ⟨place, significand⟩ :=
    finite.canonical_binary64.unique (by decide) other.canonical_binary64 same
  exact finite.ext other place significand

/-- A double is known from its sign, its exponent and its fraction. -/
theorem pattern_ext
    {left right : UInt64}
    (negative : (ofDouble left).negative = (ofDouble right).negative)
    (exponent : (ofDouble left).exponent = (ofDouble right).exponent)
    (fraction : (ofDouble left).fraction = (ofDouble right).fraction) :
    left = right := by
  apply UInt64.toNat_inj.mp
  rw [toNat_eq left, toNat_eq right,
    ← sign_eq_signBit (ofDouble_bounds left).1,
    ← sign_eq_signBit (ofDouble_bounds right).1, negative, exponent, fraction]

end BinaryFields

theorem Datum.special_eq_iff
    {negative other : Bool}
    {fraction behind : ℚ} :
    Datum.special negative fraction = .special other behind ↔
      negative = other ∧ fraction = behind := by
  constructor
  · intro same
    rw [special, special] at same
    split_ifs at same with zero none <;> cases same
    · exact ⟨rfl, zero.trans none.symm⟩
    · exact ⟨rfl, rfl⟩
  · rintro ⟨rfl, rfl⟩
    rfl

theorem Datum.special_ne_finite
    {negative other : Bool}
    {fraction value : ℚ} :
    Datum.special negative fraction ≠ .finite other value := by
  rw [special]
  split_ifs <;> exact Datum.noConfusion

/-- No two doubles stand for the same. -/
theorem datum_ofDouble_injective :
    Function.Injective fun pattern => (BinaryFields.ofDouble pattern).datum := by
  intro left right same
  dsimp only at same
  rw [BinaryFields.datum, BinaryFields.datum] at same
  split_ifs at same with special other other
  · obtain ⟨negative, scaled⟩ := Datum.special_eq_iff.mp same
    have fraction :=
      (div_left_inj' (pow_ne_zero 52 (two_ne_zero (α := ℚ)))).mp scaled
    exact BinaryFields.pattern_ext negative (special.trans other.symm)
      (by exact_mod_cast fraction)
  · exact absurd same Datum.special_ne_finite
  · exact absurd same.symm Datum.special_ne_finite
  · obtain ⟨negative, value⟩ := Datum.finite.inj same
    have magnitude := congrArg abs value
    rw [BinaryFields.abs_value, BinaryFields.abs_value] at magnitude
    obtain ⟨exponent, fraction⟩ :=
      (BinaryFields.finite_ofDouble special).eq_of_magnitude_eq
        (BinaryFields.finite_ofDouble other) magnitude
    exact BinaryFields.pattern_ext negative exponent fraction

/-! ## From doubles to bytes -/

namespace WideFields

open BinaryFields (ofDouble)

/-- The bytes of a double in a wide format are read as its widened fields. -/
theorem read_partsOfDouble
    (wide : WideFormat)
    (order : ByteOrder)
    (pattern : UInt64)
    (rest : List UInt8) :
    wide.read order
        (bytesOf (wide.format.storageOrder order)
            (wide.format.partsOfDouble pattern) ++
          rest) =
      ofFields wide (ofDouble pattern).negative (ofDouble pattern).widen := by
  obtain ⟨sign, small⟩ := BinaryFields.ofDouble_bounds pattern
  have fraction := BinaryFields.fraction_widen_lt small
  have exponent : (ofDouble pattern).widen.exponent < 2 ^ 15 := by
    rcases BinaryFields.exponent_widen_cases pattern with
      ⟨-, special⟩ | ⟨-, number⟩
    · rw [special]
      decide
    · exact number.trans (by decide)
  rw [partsOfDouble_eq wide (BinaryFields.sign_eq_signBit sign)]
  exact read_parts exponent (significand_ofFields_lt wide _ fraction)
    (leading_ofFields_iff wide _ fraction) order rest

/--
The extended fields of a double have only one form: the leading bit is clear for
the two zeros alone, and exactly where the exponent field is zero, and no number
has the exponent of infinity.
-/
structure CanonicalFor (fields : WideFields) (pattern : UInt64) : Prop where
  leading_clear_iff :
    fields.significand < 2 ^ 63 ↔
      pattern = 0 ∨ pattern = 0x8000000000000000
  exponent_eq_zero_iff : fields.exponent = 0 ↔ fields.significand < 2 ^ 63
  exponent_eq_infinite_iff :
    fields.exponent = infiniteExponent ↔
      (ofDouble pattern).exponent = BinaryFields.infiniteExponent

theorem canonicalFor_ofFields (negative : Bool) (pattern : UInt64) :
    (ofFields .extended negative (ofDouble pattern).widen).CanonicalFor
      pattern := by
  have small := (BinaryFields.ofDouble_bounds pattern).2
  have leading :
      2 ^ 63 ≤ (ofFields .extended negative
          (ofDouble pattern).widen).significand ↔
        (ofDouble pattern).widen.exponent ≠ 0 :=
    leading_ofFields_iff .extended negative
      (BinaryFields.fraction_widen_lt small)
  have clear := not_iff_not.mpr leading
  rw [not_le, not_ne_iff] at clear
  refine ⟨?_, clear.symm, ?_⟩
  · rw [clear, BinaryFields.exponent_widen_eq_zero_iff]
    exact BinaryFields.significand_ofDouble_eq_zero_iff
  · rcases BinaryFields.exponent_widen_cases pattern with
      ⟨special, widened⟩ | ⟨number, widened⟩
    · exact iff_of_true widened special
    · exact iff_of_false widened.ne number

end WideFields

namespace LongDoubleFormat

/-- The bytes of a double stand for the double in every format. -/
theorem decode_partsOfDouble
    (format : LongDoubleFormat)
    (order : ByteOrder)
    (pattern : UInt64)
    (rest : List UInt8) :
    format.decode order
        (bytesOf (format.storageOrder order) (format.partsOfDouble pattern) ++
          rest) =
      (BinaryFields.ofDouble pattern).datum := by
  cases format with
  | double =>
      exact congrArg (fun bits => (BinaryFields.ofDouble bits).datum)
        (readDouble_part order pattern rest)
  | x87 =>
      exact (congrArg (WideFields.datum · .x87)
        (WideFields.read_partsOfDouble .extended order pattern rest)).trans
          (WideFields.datum_ofFields_widen .extended pattern)
  | binary128 =>
      exact (congrArg (WideFields.datum · .binary128)
        (WideFields.read_partsOfDouble .quadruple order pattern rest)).trans
          (WideFields.datum_ofFields_widen .quadruple pattern)
  | doubleDouble =>
      exact (congrArg DoublePair.datum
        (readPair_parts order ⟨pattern, 0⟩ rest)).trans
          (DoublePair.datum_of_double pattern)

/-- What a double is encoded to in a destination. -/
theorem encode_double_eq_ok_iff
    {format : LongDoubleFormat}
    {order : ByteOrder}
    {pattern : UInt64}
    {destination bytes : List UInt8} :
    (LongDoubleSource.double pattern).encode format order destination =
        .ok () bytes ↔
      format.encodedLength ≤ destination.length ∧
        bytes =
          format.image order (format.partsOfDouble pattern)
            destination.length :=
  LongDoubleSource.encode_eq_ok_iff rfl

theorem take_image
    (format : LongDoubleFormat)
    (order : ByteOrder)
    (pattern : UInt64)
    (size : ℕ) :
    (format.image order (format.partsOfDouble pattern) size).take
        format.encodedLength =
      bytesOf (format.storageOrder order) (format.partsOfDouble pattern) := by
  rw [image, ← totalWidth_partsOfDouble format pattern, ← length_bytesOf,
    List.take_left]

end LongDoubleFormat

/--
A double is encoded without loss in every format, in both byte orders and to
every destination with room: the bytes are decoded to what the double itself
stands for.  Extended numbers have their canonical form, and two doubles whose
bytes agree, whatever is behind them, are the same.
-/
theorem double_encodes_losslessly
    (pattern : UInt64)
    (format : LongDoubleFormat)
    (order : ByteOrder)
    (destination : List UInt8)
    (room : format.encodedLength ≤ destination.length) :
    ∃ bytes,
      (LongDoubleSource.double pattern).encode format order destination =
          .ok () bytes ∧
        bytes.length = destination.length ∧
        format.decode order bytes = (BinaryFields.ofDouble pattern).datum ∧
        (format = .x87 → (readExtended bytes).CanonicalFor pattern) ∧
        ∀ other place image,
          (LongDoubleSource.double other).encode format order place =
              .ok () image →
            image.take format.encodedLength =
                bytes.take format.encodedLength →
              other = pattern := by
  have filled := format.totalWidth_partsOfDouble pattern
  refine
    ⟨format.image order (format.partsOfDouble pattern) destination.length,
      LongDoubleFormat.encode_double_eq_ok_iff.mpr ⟨room, rfl⟩,
      format.length_image order filled room,
      format.decode_partsOfDouble order pattern _, ?_, ?_⟩
  · rintro rfl
    have read :
        readExtended
            (LongDoubleFormat.x87.image order
              (LongDoubleFormat.x87.partsOfDouble pattern)
              destination.length) =
          WideFields.ofFields .extended
            (BinaryFields.ofDouble pattern).negative
            (BinaryFields.ofDouble pattern).widen :=
      WideFields.read_partsOfDouble .extended order pattern _
    rw [read]
    exact WideFields.canonicalFor_ofFields _ pattern
  · intro other place image encoded same
    obtain ⟨-, rfl⟩ := LongDoubleFormat.encode_double_eq_ok_iff.mp encoded
    rw [format.take_image, format.take_image] at same
    apply datum_ofDouble_injective
    dsimp only
    rw [← format.decode_partsOfDouble order other [], same,
      format.decode_partsOfDouble]

/-- The least double becomes a normal number. -/
theorem least_encodes_losslessly :
    ∃ bytes,
      (LongDoubleSource.double 1).encode .x87 .bigEndian
          (List.replicate 12 0xff) = .ok () bytes ∧
        (readExtended bytes).datum .x87 = .finite false (1 / 2 ^ 1074) ∧
        (readExtended bytes).CanonicalFor 1 := by
  have room :
      LongDoubleFormat.x87.encodedLength ≤
        (List.replicate 12 (0xff : UInt8)).length := by
    decide
  have fields : BinaryFields.ofDouble 1 = ⟨0, 0, 1⟩ := by decide +kernel
  have least : (BinaryFields.ofDouble 1).datum = .finite false (1 / 2 ^ 1074) := by
    rw [fields, BinaryFields.datum, if_neg (by decide)]
    norm_num [BinaryFields.value, BinaryFields.negative, signed,
      BinaryFields.magnitude, BinaryFields.significand, BinaryFields.place,
      Shape.unit, Shape.binary64]
  obtain ⟨bytes, encoded, -, decoded, canonical, -⟩ :=
    double_encodes_losslessly 1 .x87 .bigEndian _ room
  exact ⟨bytes, encoded, decoded.trans least, canonical rfl⟩

end CallFrame
