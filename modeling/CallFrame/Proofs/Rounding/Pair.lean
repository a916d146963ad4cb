import CallFrame.Proofs.Rounding.Neighbours
import CallFrame.Proofs.Rounding.Spelling
import CallFrame.Proofs.Rounding.Value

/-!
# Pairs of doubles

A pair is rounded twice.  Its first part is the double nearest to a number, and
its second part is the double nearest to what the first one leaves over, with
the sign of what is left over.  Behind a zero or an infinity nothing is kept.

`DoublePair.Splits` says that of a pair, and everything else is derived from it.
The second part is at most half a unit of the first one, and what both leave over
is at most half a unit of the second one.  The sum of both parts is rounded to
the first part, so that the pair is normalised, unless what is left over was
rounded up to exactly half a unit: the sum is then a tie, which an odd first part
loses to its neighbour.
-/

namespace CallFrame

open BinaryFields (ofDouble infiniteExponent)

namespace DoublePair

/-- The number that a pair of finite doubles stands for. -/
def sum (pair : DoublePair) : ℚ :=
  (ofDouble pair.high).value + (ofDouble pair.low).value

/--
A pair splits a magnitude with a sign: the first part is the number rounded once,
and the second part is what it leaves over, rounded once.
-/
structure Splits
    (pair : DoublePair)
    (negative : Bool)
    (magnitude : ℚ) :
    Prop where
  high : (ofDouble pair.high).Encodes negative magnitude
  low_of_special :
    (ofDouble pair.high).exponent = infiniteExponent ∨
        (ofDouble pair.high).significand = 0 →
      pair.low = 0
  low_of_exact :
    signed negative magnitude = (ofDouble pair.high).value → pair.low = 0
  low :
    (ofDouble pair.high).exponent ≠ infiniteExponent →
      (ofDouble pair.high).significand ≠ 0 →
      signed negative magnitude ≠ (ofDouble pair.high).value →
      (ofDouble pair.low).Encodes
        (signed negative magnitude - (ofDouble pair.high).value < 0)
        |signed negative magnitude - (ofDouble pair.high).value|

/-- A pair of finite doubles is as close to a number as two roundings allow. -/
structure Close (pair : DoublePair) (number : ℚ) : Prop where
  finite_low : (ofDouble pair.low).exponent ≠ infiniteExponent
  abs_low_le : |(ofDouble pair.low).value| ≤ (ofDouble pair.high).unit / 2
  abs_sub_sum_le : |number - pair.sum| ≤ (ofDouble pair.low).unit / 2

/-- The sum of both parts is rounded to the first part. -/
def Normalised (pair : DoublePair) : Prop :=
  (ofDouble pair.high).Encodes (ofDouble pair.high).negative |pair.sum| ∧
    signed (ofDouble pair.high).negative |pair.sum| = pair.sum

/-- The sum is rounded to the first part if its size is. -/
theorem normalised_iff_of_sum
    {pair : DoublePair}
    {total : ℚ}
    (finite : (ofDouble pair.high).exponent ≠ infiniteExponent)
    (positive : 0 ≤ total)
    (sum : pair.sum = signed (ofDouble pair.high).negative total) :
    pair.Normalised ↔
      total < Shape.binary64.overflowBound ∧
        Shape.binary64.IsNearest total ((ofDouble pair.high).magnitude 1023)
          (ofDouble pair.high).significand := by
  have range := (BinaryFields.finite_ofDouble finite).exponent_le
  rw [Normalised, sum, abs_signed, abs_of_nonneg positive, and_iff_left rfl]
  exact BinaryFields.encodes_iff_of_finite (Nat.lt_succ_of_le range)

/-! ## How decimal numbers are split -/

section Decimal

variable {magnitude : ℚ}

/-- Zero and infinity leave nothing to the second part. -/
theorem splits_of_special
    {rounded : Rounded}
    (negative : Bool)
    (correct : rounded.Correct .binary64 magnitude)
    (special : rounded = .zero ∨ rounded = .infinite) :
    (DoublePair.mk (doubleOfRounded negative rounded) 0).Splits negative
      magnitude := by
  refine ⟨BinaryFields.encodes_doubleOfRounded negative correct, fun _ => rfl,
    fun _ => rfl, ?_⟩
  intro number nonzero
  rw [BinaryFields.ofDouble_doubleOfRounded negative correct] at number nonzero
  rcases special with rfl | rfl
  · exact absurd rfl nonzero
  · exact absurd rfl number

/-- The second part is made from what the first one leaves over. -/
theorem splits_of_finite
    {ratio : Ratio}
    {exponent : ℤ}
    {significand : ℕ}
    (negative : Bool)
    (correct :
      (Rounded.finite exponent significand).Correct .binary64 ratio.value)
    (nonzero : significand ≠ 0) :
    let high := Ratio.ofBinary significand (exponent - 52)
    let rest := ratio.distance high
    (DoublePair.mk (doubleOfRounded negative (.finite exponent significand))
      (if rest.isZero then 0
        else
          doubleOfRounded (negative != ratio.isBelow high)
            (rest.round .binary64))).Splits negative ratio.value := by
  intro high rest
  have canonical := correct.2.1
  have encodes := BinaryFields.encodes_doubleOfRounded negative correct
  have fields := BinaryFields.ofDouble_doubleOfRounded negative correct
  set first := doubleOfRounded negative (.finite exponent significand)
  have value : (ofDouble first).value = signed negative high.value := by
    rw [fields, BinaryFields.value, BinaryFields.negative_ofRounded,
      BinaryFields.magnitude,
      BinaryFields.significand_ofRounded negative canonical,
      BinaryFields.place_ofRounded negative canonical, Ratio.value_ofBinary]
    rfl
  have distance : rest.value = |ratio.value - high.value| :=
    Ratio.value_distance ratio high
  constructor
  · exact encodes
  · rintro (infinite | zero)
    · exact absurd infinite (encodes.finite correct.1).1.ne
    · dsimp only at zero
      rw [fields, BinaryFields.significand_ofRounded negative canonical] at zero
      exact absurd zero nonzero
  · intro exact
    rw [value] at exact
    have same := signed_injective negative exact
    have none : rest.isZero = true := by
      rw [Ratio.isZero_iff, distance, same, sub_self, abs_zero]
    exact if_pos none
  · intro _ _ different
    rw [value] at different ⊢
    have apart : ratio.value - high.value ≠ 0 :=
      sub_ne_zero.mpr fun same => different (congrArg _ same)
    have some : ¬ rest.isZero = true := by
      rw [Ratio.isZero_iff, distance, abs_eq_zero]
      exact apart
    have sign :
        (negative != ratio.isBelow high) =
          decide (signed negative (ratio.value - high.value) < 0) := by
      rw [signed_neg_iff negative apart]
      congr 1
      apply Bool.eq_iff_iff.mpr
      rw [Ratio.isBelow_iff, decide_eq_true_iff, sub_neg]
    have rounded :=
      rest.round_correct Shape.supported_binary64.precise (by decide)
        Shape.supported_binary64.range
    rw [signed_sub, abs_signed, ← distance, ← sign, if_neg some]
    exact BinaryFields.encodes_doubleOfRounded _ rounded

/-- The pair of a decimal number splits the magnitude that it denotes. -/
theorem splits_doublePairOfDecimal
    {decimal : Decimal}
    (counted : decimal.Counted)
    (denotes : decimal.Denotes magnitude) :
    (doublePairOfDecimal decimal).Splits decimal.negative magnitude := by
  have supported := Shape.supported_binary64
  rw [doublePairOfDecimal]
  rcases Decimal.magnitude_cases counted denotes with
    ⟨ratio, kept, rfl⟩ | ⟨kept, zero⟩ | ⟨kept, infinite⟩
  · have correct :=
      ratio.round_correct supported.precise (by decide) supported.range
    rw [kept]
    dsimp only
    cases rounds : ratio.round .binary64 with
    | zero =>
        rw [rounds] at correct
        exact splits_of_special _ correct (Or.inl rfl)
    | infinite =>
        rw [rounds] at correct
        exact splits_of_special _ correct (Or.inr rfl)
    | finite exponent significand =>
        rw [rounds] at correct
        exact splits_of_finite _ correct (ratio.significand_ne_zero rounds)
  · rw [kept]
    exact splits_of_special _ (zero _ supported) (Or.inl rfl)
  · rw [kept]
    exact splits_of_special _ (infinite _ supported) (Or.inr rfl)

end Decimal

/-! ## How close a pair is -/

namespace Splits

variable {pair : DoublePair} {negative : Bool} {magnitude : ℚ}

/-- What the first part leaves over, with the sign of the number. -/
theorem sub_value_high (splits : pair.Splits negative magnitude) :
    signed negative magnitude - (ofDouble pair.high).value =
      signed negative (magnitude - (ofDouble pair.high).magnitude 1023) := by
  rw [BinaryFields.value, splits.high.negative_eq, signed_sub]

section Close

variable
  (splits : pair.Splits negative magnitude)
  (nonneg : 0 ≤ magnitude)
  (finite : (ofDouble pair.high).exponent ≠ infiniteExponent)

include splits finite

/-- A first part that is finite is the nearest double. -/
theorem nearest_high :
    magnitude < Shape.binary64.overflowBound ∧
      Shape.binary64.IsNearest magnitude ((ofDouble pair.high).magnitude 1023)
        (ofDouble pair.high).significand := by
  have encodes := splits.high
  rw [← encodes.negative_eq] at encodes
  have range := (BinaryFields.finite_ofDouble finite).exponent_le
  exact (BinaryFields.encodes_iff_of_finite (Nat.lt_succ_of_le range)).mp encodes

include nonneg

/-- A first part that is finite leaves at most half of its unit over. -/
theorem abs_sub_value_high_le :
    |signed negative magnitude - (ofDouble pair.high).value| ≤
      (ofDouble pair.high).unit / 2 := by
  have canonical := BinaryFields.canonical_ofDouble finite
  obtain ⟨below, nearest⟩ := splits.nearest_high finite
  rw [splits.sub_value_high, abs_signed]
  exact nearest.abs_sub_le_half (by decide) canonical nonneg below

theorem abs_sub_value_high_lt :
    |signed negative magnitude - (ofDouble pair.high).value| <
      Shape.binary64.overflowBound := by
  have canonical := BinaryFields.canonical_ofDouble finite
  exact (splits.abs_sub_value_high_le nonneg finite).trans_lt
    (Shape.half_unit_lt_overflowBound (by decide) canonical.le_maxExponent)

/-- Behind a finite first part the second part is the nearest double as well. -/
theorem nearest_low :
    (ofDouble pair.low).exponent ≠ infiniteExponent ∧
      Shape.binary64.IsNearest
        |signed negative magnitude - (ofDouble pair.high).value|
        ((ofDouble pair.low).magnitude 1023)
        (ofDouble pair.low).significand ∧
      (ofDouble pair.low).value =
        signed (signed negative magnitude - (ofDouble pair.high).value < 0)
          ((ofDouble pair.low).magnitude 1023) := by
  have canonical := BinaryFields.canonical_ofDouble finite
  by_cases zero : (ofDouble pair.high).significand = 0
  · rw [splits.low_of_special (Or.inr zero),
      BinaryFields.magnitude_ofDouble_zero, BinaryFields.value_ofDouble_zero,
      signed_zero]
    refine ⟨by decide, ?_, rfl⟩
    -- the number itself is left over, and zero is the nearest double to it
    have nearest := (splits.nearest_high finite).2
    have nothing : (ofDouble pair.high).magnitude 1023 = 0 := by
      rw [BinaryFields.magnitude, zero, Nat.cast_zero, zero_mul]
    rw [nothing, zero] at nearest
    rw [splits.sub_value_high, nothing, sub_zero, abs_signed,
      abs_of_nonneg nonneg]
    exact nearest
  by_cases exact : signed negative magnitude = (ofDouble pair.high).value
  · rw [splits.low_of_exact exact, BinaryFields.magnitude_ofDouble_zero,
      BinaryFields.value_ofDouble_zero, signed_zero, exact, sub_self, abs_zero]
    refine ⟨by decide, ?_, rfl⟩
    have range := canonical.minExponent_le.trans canonical.le_maxExponent
    exact ⟨Shape.holds_zero range, fun other _ => by simp,
      fun _ _ _ _ => Even.zero⟩
  · have encodes := splits.low finite zero exact
    obtain ⟨number, nearest⟩ :=
      encodes.finite (splits.abs_sub_value_high_lt nonneg finite)
    refine ⟨number.ne, nearest, ?_⟩
    rw [BinaryFields.value, encodes.negative_eq]

/-- The second part is at most half a unit of the first one. -/
theorem abs_value_low_le :
    |(ofDouble pair.low).value| ≤ (ofDouble pair.high).unit / 2 := by
  have canonical := BinaryFields.canonical_ofDouble finite
  obtain ⟨number, nearest, -⟩ := splits.nearest_low nonneg finite
  rw [BinaryFields.abs_value]
  exact nearest.le_half_unit (by decide)
    (BinaryFields.canonical_ofDouble number) (abs_nonneg _)
    canonical.minExponent_le canonical.le_maxExponent
    (splits.abs_sub_value_high_le nonneg finite)

/-- A pair that splits a number is close to it. -/
theorem close : pair.Close (signed negative magnitude) := by
  obtain ⟨number, nearest, value⟩ := splits.nearest_low nonneg finite
  refine ⟨number, splits.abs_value_low_le nonneg finite, ?_⟩
  rw [sum, ← sub_sub, value, abs_sub_signed]
  exact nearest.abs_sub_le_half (by decide)
    (BinaryFields.canonical_ofDouble number) (abs_nonneg _)
    (splits.abs_sub_value_high_lt nonneg finite)

/-! ## How the sum of a pair is rounded -/

/--
The second part is added to the first one within half a unit, or taken away
within half the unit below, and never more than there is.
-/
theorem sum_cases :
    let high := ofDouble pair.high
    let low := ofDouble pair.low
    pair.sum =
        signed high.negative (high.magnitude 1023 + low.magnitude 1023) ∨
      pair.sum =
          signed high.negative (high.magnitude 1023 - low.magnitude 1023) ∧
        low.magnitude 1023 ≤ high.magnitude 1023 ∧
        low.magnitude 1023 ≤
          Shape.binary64.unit
            (Shape.binary64.placeBelow (high.place 1023) high.significand) /
            2 := by
  intro high low
  have canonical := BinaryFields.canonical_ofDouble finite
  obtain ⟨number, nearest, value⟩ := splits.nearest_low nonneg finite
  have canonicalLow := BinaryFields.canonical_ofDouble number
  rw [splits.sub_value_high, abs_signed] at nearest
  rw [splits.sub_value_high] at value
  rw [sum, value, BinaryFields.value, splits.high.negative_eq]
  rcases lt_trichotomy magnitude (high.magnitude 1023) with below | same | above
  · right
    have under := sub_neg.mpr below
    rw [abs_of_neg under, neg_sub] at nearest
    rw [signed_neg_iff negative under.ne, decide_eq_true under, Bool.bne_true,
      signed_not, ← sub_eq_add_neg, signed_sub]
    have half := (splits.nearest_high finite).2.le_half_below (by decide)
      canonical nonneg
    refine ⟨rfl, nearest.le_of_holds canonical.holds (by linarith), ?_⟩
    exact nearest.le_half_unit (by decide) canonicalLow (by linarith)
      canonical.minExponent_le_placeBelow
      ((Shape.binary64.placeBelow_le _ _).trans canonical.le_maxExponent) half
  · left
    rw [same, sub_self, abs_zero] at nearest
    have range := canonical.minExponent_le.trans canonical.le_maxExponent
    have none : low.magnitude 1023 = 0 :=
      nearest.eq_of_holds (Shape.holds_zero range)
    rw [none, signed_zero, add_zero, add_zero]
  · left
    have apart := sub_pos.mpr above
    rw [signed_neg_iff negative apart.ne', decide_eq_false apart.not_gt,
      Bool.bne_false, signed_add]

/--
The sum of both parts is rounded to the first part, unless the second part is
exactly half a unit of an odd first part.
-/
theorem normalised_iff :
    pair.Normalised ↔
      ¬(Odd (ofDouble pair.high).significand ∧
        |(ofDouble pair.low).value| = (ofDouble pair.high).unit / 2) := by
  have canonical := BinaryFields.canonical_ofDouble finite
  have half := splits.abs_value_low_le nonneg finite
  have least := (ofDouble pair.low).magnitude_nonneg 1023
  rw [BinaryFields.abs_value] at half ⊢
  rw [not_and', Nat.not_odd_iff_even]
  rcases splits.sum_cases nonneg finite with sum | ⟨sum, less, below⟩
  · have positive :=
      add_nonneg ((ofDouble pair.high).magnitude_nonneg 1023) least
    rw [normalised_iff_of_sum finite positive sum]
    exact canonical.rounds_back_add_iff (by decide) least half
  · rw [normalised_iff_of_sum finite (sub_nonneg.mpr less) sum]
    exact canonical.rounds_back_sub_iff (by decide) least below

end Close

end Splits

end DoublePair

/-! ## From text to bytes -/

/-- The text of a number is stored as the pair for the number, and zeros. -/
theorem text_encodes_pair
    (text : WrittenText)
    (order : ByteOrder)
    (destination : List UInt8)
    (room : LongDoubleFormat.doubleDouble.encodedLength ≤ destination.length) :
    ∃ bytes,
      (LongDoubleSource.text text.content).encode .doubleDouble order
          destination = .ok () bytes ∧
        bytes.length = destination.length ∧
        readPair order bytes = doublePairOfDecimal text.number.decimal ∧
        bytes.drop LongDoubleFormat.doubleDouble.encodedLength =
          List.replicate
            (destination.length -
              LongDoubleFormat.doubleDouble.encodedLength) 0 := by
  set pair := doublePairOfDecimal text.number.decimal
  have filled :
      LongDoubleFormat.totalWidth (LongDoubleFormat.pairParts pair) =
        LongDoubleFormat.doubleDouble.encodedLength := rfl
  refine
    ⟨LongDoubleFormat.doubleDouble.image order
      (LongDoubleFormat.pairParts pair) destination.length, ?_,
      LongDoubleFormat.length_image _ order filled room,
      readPair_parts order pair _, ?_⟩
  · rw [text.encode_eq]
    exact (LongDoubleFormat.store_settles .doubleDouble order filled
      destination).trans (congrArg (Action.settled · destination) (if_pos room))
  · rw [LongDoubleFormat.image, ← filled, ← LongDoubleFormat.length_bytesOf]
    exact List.drop_left

/-- The pair for a written number splits the magnitude that is written. -/
theorem WrittenText.splits_decimal
    (text : WrittenText)
    (short : text.content.utf8ByteSize < 2 ^ 31) :
    (doublePairOfDecimal text.number.decimal).Splits
      text.number.sign.isNegative text.number.magnitude := by
  have few := text.length_digits_lt short
  exact DoublePair.splits_doublePairOfDecimal (text.number.counted_decimal few)
    (text.number.denotes_decimal few)

/--
The text of a decimal number, with blanks around it, is encoded as a pair of
doubles that splits the written number: the first part is the number rounded
once, and the second part is what the first one leaves over, rounded once.  If
the first part is finite then the pair is close to the written number.  What is
left of the destination is cleared.
-/
theorem text_encodes_split
    (text : WrittenText)
    (short : text.content.utf8ByteSize < 2 ^ 31)
    (order : ByteOrder)
    (destination : List UInt8)
    (room : LongDoubleFormat.doubleDouble.encodedLength ≤ destination.length) :
    ∃ bytes,
      (LongDoubleSource.text text.content).encode .doubleDouble order
          destination = .ok () bytes ∧
        bytes.length = destination.length ∧
        (readPair order bytes).Splits text.number.sign.isNegative
          text.number.magnitude ∧
        ((ofDouble (readPair order bytes).high).exponent ≠ infiniteExponent →
          (readPair order bytes).Close
            (signed text.number.sign.isNegative text.number.magnitude)) ∧
        bytes.drop LongDoubleFormat.doubleDouble.encodedLength =
          List.replicate
            (destination.length -
              LongDoubleFormat.doubleDouble.encodedLength) 0 := by
  obtain ⟨bytes, encoded, length, pair, cleared⟩ :=
    text_encodes_pair text order destination room
  have splits := text.splits_decimal short
  rw [← pair] at splits
  exact ⟨bytes, encoded, length, splits,
    splits.close text.number.magnitude_nonneg, cleared⟩

theorem tenth_encodes_split :
    ∃ bytes,
      (LongDoubleSource.text "0.1").encode .doubleDouble .bigEndian
          (List.replicate 16 0xff) = .ok () bytes ∧
        (readPair .bigEndian bytes).Splits false (1 / 10) := by
  have short : (pointText 1 1).content.utf8ByteSize < 2 ^ 31 := by
    decide +kernel
  have room :
      LongDoubleFormat.doubleDouble.encodedLength ≤
        (List.replicate 16 (0xff : UInt8)).length := by
    decide
  have magnitude : (pointText 1 1).number.magnitude = 1 / 10 := by
    rw [magnitude_pointText (by decide), Nat.cast_one, pow_one]
  obtain ⟨bytes, encoded, -, splits, -⟩ :=
    text_encodes_split (pointText 1 1) short .bigEndian _ room
  rw [magnitude] at splits
  exact ⟨bytes, encoded, splits⟩

/--
If the first part that the text of a decimal number is encoded as is finite, then
the sum of both parts is rounded to it, unless the first part is odd and the
second one is exactly half of its unit.
-/
theorem text_encodes_normalised_iff
    (text : WrittenText)
    (short : text.content.utf8ByteSize < 2 ^ 31)
    (order : ByteOrder)
    (destination : List UInt8)
    (room : LongDoubleFormat.doubleDouble.encodedLength ≤ destination.length) :
    ∃ bytes,
      (LongDoubleSource.text text.content).encode .doubleDouble order
          destination = .ok () bytes ∧
        ((ofDouble (readPair order bytes).high).exponent ≠ infiniteExponent →
          ((readPair order bytes).Normalised ↔
            ¬(Odd (ofDouble (readPair order bytes).high).significand ∧
              |(ofDouble (readPair order bytes).low).value| =
                (ofDouble (readPair order bytes).high).unit / 2))) := by
  obtain ⟨bytes, encoded, -, pair, -⟩ :=
    text_encodes_pair text order destination room
  have splits := text.splits_decimal short
  rw [← pair] at splits
  exact ⟨bytes, encoded, splits.normalised_iff text.number.magnitude_nonneg⟩

theorem tenth_encodes_normalised :
    ∃ bytes,
      (LongDoubleSource.text "0.1").encode .doubleDouble .bigEndian
          (List.replicate 16 0xff) = .ok () bytes ∧
        (readPair .bigEndian bytes).Normalised := by
  have short : (pointText 1 1).content.utf8ByteSize < 2 ^ 31 := by
    decide +kernel
  have room :
      LongDoubleFormat.doubleDouble.encodedLength ≤
        (List.replicate 16 (0xff : UInt8)).length := by
    decide
  have made :
      doublePairOfDecimal (pointText 1 1).number.decimal =
        ⟨0x3fb999999999999a, 0xbc5999999999999a⟩ := by
    decide +kernel
  have fields :
      ofDouble 0x3fb999999999999a = ⟨0, 0x3fb, 0x999999999999a⟩ := by
    decide +kernel
  obtain ⟨bytes, encoded, normalised⟩ :=
    text_encodes_normalised_iff (pointText 1 1) short .bigEndian _ room
  obtain ⟨other, same, -, pair, -⟩ :=
    text_encodes_pair (pointText 1 1) .bigEndian _ room
  cases encoded.symm.trans same
  rw [pair, made, fields] at normalised
  refine ⟨bytes, encoded, ?_⟩
  rw [pair, made]
  exact (normalised (by decide)).mpr fun tie => absurd tie.1 (by decide)

/-- Between an odd double and the even one above it the sum is a tie. -/
theorem not_normalised_of_tie :
    ¬(DoublePair.mk 0x3ff0000000000001 0x3ca0000000000000).Normalised := by
  have high : ofDouble 0x3ff0000000000001 = ⟨0, 0x3ff, 1⟩ := by
    decide +kernel
  have low : ofDouble 0x3ca0000000000000 = ⟨0, 0x3ca, 0⟩ := by
    decide +kernel
  have total :
      (DoublePair.mk 0x3ff0000000000001 0x3ca0000000000000).sum =
        1 + 3 / 2 ^ 53 := by
    rw [DoublePair.sum, high, low]
    norm_num [BinaryFields.value, BinaryFields.negative, signed,
      BinaryFields.magnitude, BinaryFields.significand, BinaryFields.place,
      Shape.unit, Shape.binary64]
  have first :
      (BinaryFields.mk 0 0x3ff 1).magnitude 1023 = 1 + 2 / 2 ^ 53 := by
    norm_num [BinaryFields.magnitude, BinaryFields.significand,
      BinaryFields.place, Shape.unit, Shape.binary64]
  have held : Shape.binary64.Holds (1 + 4 / 2 ^ 53) := by
    refine ⟨2 ^ 52 + 2, 0, by decide, by decide, by decide, ?_⟩
    norm_num [Shape.unit, Shape.binary64]
  rintro ⟨encodes, -⟩
  rw [high, total, BinaryFields.encodes_iff_of_finite (by decide), first,
    abs_of_pos (by norm_num)] at encodes
  have even := encodes.2.even (1 + 4 / 2 ^ 53) held (by norm_num)
    (by norm_num [abs_of_pos, abs_of_neg])
  exact absurd even (by decide)

/--
A number closely below the middle of two doubles: the first part is the odd one
below it, and what that leaves over is rounded up to exactly half a unit.
-/
theorem middle_encodes_not_normalised :
    ∃ bytes,
      (LongDoubleSource.text "01.00000000000000033306690738754696").encode
          .doubleDouble .bigEndian (List.replicate 16 0xff) = .ok () bytes ∧
        (ofDouble (readPair .bigEndian bytes).high).exponent ≠
          infiniteExponent ∧
        ¬(readPair .bigEndian bytes).Normalised := by
  have room :
      LongDoubleFormat.doubleDouble.encodedLength ≤
        (List.replicate 16 (0xff : UInt8)).length := by
    decide
  set text := pointText 100000000000000033306690738754696 32
  have made :
      doublePairOfDecimal text.number.decimal =
        ⟨0x3ff0000000000001, 0x3ca0000000000000⟩ := by
    decide +kernel
  obtain ⟨bytes, encoded, -, pair, -⟩ :=
    text_encodes_pair text .bigEndian _ room
  refine ⟨bytes, encoded, ?_⟩
  rw [pair, made]
  exact ⟨by decide, not_normalised_of_tie⟩

end CallFrame
