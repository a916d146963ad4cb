import CallFrame.Proofs.Rounding.Double

/-!
# Doubles and their spelling

A `long double` is made from a double or from text, and the two ways have little
in common.  A double is moved into a wider format field by field; a text is read
as a ratio, which is rounded once to the precision of the format and assembled
into fields, also when the format is that of a double.

They meet in the texts that spell a double, which have its sign and exactly its
magnitude.  Every format holds the magnitude of a double, so that rounding
changes nothing, and what is assembled from the text are the very fields that
widening moves into place.  Either way the same bytes are stored.
-/

namespace CallFrame

/-! ## Fields from a rounded magnitude -/

/-- A double is assembled again from its magnitude. -/
theorem doubleOfRounded_eq
    {pattern : UInt64}
    {negative : Bool}
    {rounded : Rounded}
    (finite : (BinaryFields.ofDouble pattern).Finite 1023)
    (sign : signBit negative = (BinaryFields.ofDouble pattern).sign)
    (correct :
      rounded.Correct .binary64
        ((BinaryFields.ofDouble pattern).magnitude 1023)) :
    doubleOfRounded negative rounded = pattern := by
  have whole := BinaryFields.toNat_eq pattern
  set fields := BinaryFields.ofDouble pattern
  rw [← UInt64.ofNat_toNat (x := pattern), whole, ← sign]
  rcases finite.rounded_eq Shape.biased_binary64 correct with
    rfl | ⟨rfl, zero⟩
  · have field := finite.exponentField_eq Shape.biased_binary64
    have low :
        fields.significand * 2 ^ (Shape.binary64.precision - 53) % (1 <<< 52) =
          fields.fraction := by
      rw [show Shape.binary64.precision - 53 = 0 from rfl, pow_zero, mul_one]
      exact finite.significand_mod
    rw [show Shape.binary64.precision = 53 from rfl] at field low ⊢
    rw [doubleOfRounded, field, low]
  · obtain ⟨exponent, fraction⟩ := BinaryFields.fields_eq_zero zero
    rw [exponent, fraction]
    rfl

namespace WideFields

/-- The fields of a wide number with those of a double in their places. -/
def ofFields
    (wide : WideFormat)
    (negative : Bool)
    (fields : BinaryFields) :
    WideFields where
  negative := negative
  exponent := fields.exponent
  significand := fields.significand * 2 ^ (wide.shape.precision - 53)

/-- A wide number is assembled again from the magnitude of its fields. -/
theorem ofRounded_eq
    {wide : WideFormat}
    {fields : BinaryFields}
    {rounded : Rounded}
    (negative : Bool)
    (finite : fields.Finite 16383)
    (correct : rounded.Correct wide.shape (fields.magnitude 16383)) :
    ofRounded wide negative rounded = ofFields wide negative fields := by
  rcases finite.rounded_eq wide.biased correct with rfl | ⟨rfl, zero⟩
  · rw [ofRounded, ofFields, finite.exponentField_eq wide.biased]
  · rw [ofRounded, ofFields, zero, zero_mul,
      (BinaryFields.fields_eq_zero zero).1]

/-- A double is stored as the fields that widening moves into place. -/
theorem partsOfDouble_eq
    (wide : WideFormat)
    {pattern : UInt64}
    {negative : Bool}
    (sign : signBit negative = (BinaryFields.ofDouble pattern).sign) :
    wide.format.partsOfDouble pattern =
      (ofFields wide negative (BinaryFields.ofDouble pattern).widen).parts
        wide := by
  have small := (BinaryFields.ofDouble_bounds pattern).2
  have fraction := BinaryFields.fraction_widen_lt small
  rw [← BinaryFields.sign_widen] at sign
  set fields := (BinaryFields.ofDouble pattern).widen with widened
  cases wide with
  | extended =>
      have word :
          (if fields.exponent = 0 then 0 else 1 <<< 63) +
              fields.fraction <<< 11 =
            fields.significand * 2 ^ 11 := by
        rw [BinaryFields.significand, Nat.shiftLeft_eq, Nat.shiftLeft_eq]
        split_ifs <;> omega
      show LongDoubleFormat.extendedParts (extendedOfDouble pattern) =
        (ofFields .extended negative fields).parts .extended
      rw [extendedOfDouble, ← widened, word, ← sign]
      rfl
  | quadruple =>
      have word :
          fields.significand * 2 ^ 60 % (1 <<< 112) = fields.fraction <<< 60 := by
        rw [BinaryFields.significand, Nat.one_shiftLeft, Nat.shiftLeft_eq]
        split_ifs <;> omega
      show [Scalar.uint128 (quadrupleOfDouble pattern)] =
        (ofFields .quadruple negative fields).parts .quadruple
      rw [quadrupleOfDouble, ← widened, ← sign, ← word]
      rfl

end WideFields

/-! ## Texts that spell a double -/

/-- The text of a number is stored as the decimal number that is read in it. -/
theorem WrittenText.encode_eq
    (text : WrittenText)
    (format : LongDoubleFormat)
    (order : ByteOrder) :
    (LongDoubleSource.text text.content).encode format order =
      format.store order (format.partsOfDecimal text.number.decimal) := by
  rw [LongDoubleSource.encode, text.parse_content]
  rfl

/-- A written number has the sign and exactly the magnitude of a double. -/
structure WrittenDecimal.Spells
    (number : WrittenDecimal)
    (pattern : UInt64) :
    Prop where
  /-- The double is a number, and it is not infinite. -/
  finite : (BinaryFields.ofDouble pattern).exponent ≠ 0x7ff
  sign_eq :
    signBit number.sign.isNegative = (BinaryFields.ofDouble pattern).sign
  magnitude_eq :
    number.magnitude = (BinaryFields.ofDouble pattern).magnitude 1023

/-! ## A spelling for every double -/

/-- The digits of a number behind a zero. -/
def digitsOf (number : ℕ) : List (Fin 10) :=
  0 :: (Nat.digits 10 number).reverse.map (Fin.ofNat 10)

theorem numberOfDigits_digitsOf (number : ℕ) :
    numberOfDigits (digitsOf number) = number := by
  have digits (digit : ℕ) (member : digit ∈ Nat.digits 10 number) :
      (Fin.val ∘ Fin.ofNat 10) digit = id digit :=
    Nat.mod_eq_of_lt (Nat.digits_lt_base (by decide) member)
  rw [digitsOf, numberOfDigits_cons, Fin.val_zero, zero_mul, zero_add,
    numberOfDigits, ← List.map_reverse, List.reverse_reverse, List.map_map,
    List.map_congr_left digits, List.map_id, Nat.ofDigits_digits]

theorem length_digitsOf_le
    {number size : ℕ}
    (bound : number < 10 ^ size) :
    (digitsOf number).length ≤ size + 1 := by
  rw [digitsOf, List.length_cons, List.length_map, List.length_reverse,
    Nat.add_le_add_iff_right]
  exact (Nat.digits_length_le_iff (by decide) number).mpr bound

namespace BinaryFields

/-- By how many places the last bit of a double stands above the point. -/
def above (fields : BinaryFields) : ℕ :=
  (fields.place 1023 - 52).toNat

/-- By how many places the last bit of a double stands below the point. -/
def below (fields : BinaryFields) : ℕ :=
  (52 - fields.place 1023).toNat

/-- The number that is the magnitude of a double, but for a power of ten. -/
def numerator (fields : BinaryFields) : ℕ :=
  fields.significand * 2 ^ fields.above * 5 ^ fields.below

/-- A finite double written as a whole number with an exponent. -/
def spelling (fields : BinaryFields) : WrittenText where
  front := []
  number :=
    { sign := if fields.sign = 0 then .absent else .minus
      whole := digitsOf fields.numerator
      fraction? := none
      exponent? := some
        { capital := false
          sign := .minus
          digits := digitsOf fields.below
          nonempty := List.cons_ne_nil _ _ }
      nonempty := List.cons_ne_nil _ _ }
  back := []
  blank_front := List.forall_mem_nil _
  blank_back := List.forall_mem_nil _

theorem render_spelling (fields : BinaryFields) :
    fields.spelling.number.render =
      fields.spelling.number.sign.render ++
        (renderDigits (digitsOf fields.numerator) ++
          'e' :: '-' :: renderDigits (digitsOf fields.below)) := by
  show _ ++ (renderDigits _ ++ [] ++ _) = _
  rw [List.append_nil]
  rfl

theorem magnitude_spelling (fields : BinaryFields) :
    fields.spelling.number.magnitude = fields.magnitude 1023 := by
  have exponent :
      fields.spelling.number.exponent - fields.spelling.number.fraction.length =
        -(fields.below : ℤ) := by
    show -(numberOfDigits (digitsOf fields.below) : ℤ) - (0 : ℕ) = _
    rw [numberOfDigits_digitsOf, Nat.cast_zero, sub_zero]
  have digits :
      numberOfDigits fields.spelling.number.digits = fields.numerator := by
    show numberOfDigits (digitsOf fields.numerator ++ []) = _
    rw [List.append_nil, numberOfDigits_digitsOf]
  have unit :
      Shape.binary64.unit (fields.place 1023) =
        2 ^ fields.above / 2 ^ fields.below := by
    have split := two_zpow_eq_div (fields.place 1023 - 52)
    rw [neg_sub] at split
    exact split
  have ten : (10 : ℚ) ^ fields.below = 2 ^ fields.below * 5 ^ fields.below := by
    rw [← mul_pow]
    norm_num
  rw [WrittenDecimal.magnitude, exponent, digits, magnitude, unit, numerator,
    zpow_neg, zpow_natCast, ten]
  push_cast
  field_simp

theorem Finite.numerator_lt
    {fields : BinaryFields}
    (finite : fields.Finite 1023) :
    fields.numerator < 10 ^ 2098 := by
  have range := finite.exponent_le
  have up : fields.above ≤ 971 := by
    rw [above, place]
    omega
  have down : fields.below ≤ 1074 := by
    rw [below, place]
    omega
  calc fields.numerator
      < 2 ^ 53 * 2 ^ fields.above * 5 ^ fields.below := by
        rw [numerator]
        gcongr
        exact finite.significand_lt
    _ ≤ 10 ^ 53 * 10 ^ 971 * 10 ^ 1074 := by
        gcongr <;> norm_num
    _ = 10 ^ 2098 := by rw [← pow_add, ← pow_add]

theorem Finite.short_spelling
    {fields : BinaryFields}
    (finite : fields.Finite 1023) :
    fields.spelling.content.utf8ByteSize < 2 ^ 31 := by
  have digits := length_digitsOf_le finite.numerator_lt
  have power : (digitsOf fields.below).length ≤ 5 := by
    apply length_digitsOf_le
    rw [below, place]
    omega
  have sign : fields.spelling.number.sign.render.length ≤ 1 := by
    show (if fields.sign = 0 then WrittenSign.absent
      else WrittenSign.minus).render.length ≤ 1
    split_ifs <;> decide
  have size := congrArg List.length fields.render_spelling
  simp only [List.length_append, List.length_cons, length_renderDigits] at size
  have bytes :=
    utf8ByteSize_le ([] ++ fields.spelling.number.render ++ [])
  rw [List.nil_append, List.append_nil] at bytes
  show (String.ofList
    ([] ++ fields.spelling.number.render ++ [])).utf8ByteSize < 2 ^ 31
  rw [List.nil_append, List.append_nil]
  omega

end BinaryFields

/-- Every finite double is spelled by a short text. -/
theorem exists_text_spells
    {pattern : UInt64}
    (number : (BinaryFields.ofDouble pattern).exponent ≠ 0x7ff) :
    ∃ text : WrittenText,
      text.content.utf8ByteSize < 2 ^ 31 ∧ text.number.Spells pattern := by
  have bit := (BinaryFields.ofDouble_bounds pattern).1
  refine ⟨(BinaryFields.ofDouble pattern).spelling,
    (BinaryFields.finite_ofDouble number).short_spelling, number, ?_,
    BinaryFields.magnitude_spelling _⟩
  show signBit (if (BinaryFields.ofDouble pattern).sign = 0 then
    WrittenSign.absent else WrittenSign.minus).isNegative = _
  split_ifs with positive
  · exact positive.symm
  · show 1 = (BinaryFields.ofDouble pattern).sign
    omega

/-- A number with its last digits behind a point. -/
def pointText (number places : ℕ) : WrittenText where
  front := []
  number :=
    { sign := .absent
      whole := (digitsOf number).take ((digitsOf number).length - places)
      fraction? :=
        some ((digitsOf number).drop ((digitsOf number).length - places))
      exponent? := none
      nonempty := by
        rw [Option.getD_some, List.take_append_drop]
        exact List.cons_ne_nil _ _ }
  back := []
  blank_front := List.forall_mem_nil _
  blank_back := List.forall_mem_nil _

theorem magnitude_pointText
    {number places : ℕ}
    (enough : places ≤ (digitsOf number).length) :
    (pointText number places).number.magnitude = number / 10 ^ places := by
  have digits : (pointText number places).number.digits = digitsOf number :=
    List.take_append_drop _ _
  have behind : (pointText number places).number.fraction.length = places := by
    show ((digitsOf number).drop _).length = places
    rw [List.length_drop, Nat.sub_sub_self enough]
  have exponent : (pointText number places).number.exponent = 0 := rfl
  rw [WrittenDecimal.magnitude, digits, numberOfDigits_digitsOf, behind,
    exponent, zero_sub, zpow_neg, zpow_natCast, div_eq_mul_inv]

/-! ## Both ways agree -/

section Spelled

variable {text : WrittenText} {pattern : UInt64}

theorem doubleOfRounded_of_spells
    (short : text.content.utf8ByteSize < 2 ^ 31)
    (spells : text.number.Spells pattern) :
    doubleOfRounded text.number.sign.isNegative
        (text.number.decimal.round .binary64) =
      pattern := by
  have correct := text.round_correct short Shape.supported_binary64
  rw [spells.magnitude_eq] at correct
  exact doubleOfRounded_eq (BinaryFields.finite_ofDouble spells.finite)
    spells.sign_eq correct

/-- Both ways lead to the same numbers in a wide format. -/
theorem partsOfDecimal_wide
    (short : text.content.utf8ByteSize < 2 ^ 31)
    (spells : text.number.Spells pattern)
    (wide : WideFormat) :
    wide.format.partsOfDecimal text.number.decimal =
      wide.format.partsOfDouble pattern := by
  have finite := BinaryFields.finite_ofDouble spells.finite
  have correct := text.round_correct short wide.supported
  rw [spells.magnitude_eq, ← finite.magnitude_widen] at correct
  rw [WideFields.partsOfDecimal_eq,
    WideFields.partsOfDouble_eq wide spells.sign_eq]
  exact congrArg (WideFields.parts · wide)
    (WideFields.ofRounded_eq _ finite.widen correct)

/-- Both ways lead to the same pair of doubles. -/
theorem doublePairOfDecimal_of_spells
    (short : text.content.utf8ByteSize < 2 ^ 31)
    (spells : text.number.Spells pattern) :
    doublePairOfDecimal text.number.decimal = ⟨pattern, 0⟩ := by
  have few := text.length_digits_lt short
  have finite := BinaryFields.finite_ofDouble spells.finite
  have held : Shape.binary64.Holds text.number.magnitude := by
    rw [spells.magnitude_eq,
      BinaryFields.magnitude_eq Shape.biased_binary64]
    exact (finite.canonical Shape.biased_binary64).holds
  rw [doublePairOfDecimal_of_holds (text.number.counted_decimal few)
    (text.number.denotes_decimal few) held]
  exact congrArg (DoublePair.mk · 0) (doubleOfRounded_of_spells short spells)

/--
A text that spells a finite double is encoded as the double itself: in every
format and byte order and for every destination both ways give the same result
and leave the same bytes.
-/
theorem text_encodes_as_double
    (short : text.content.utf8ByteSize < 2 ^ 31)
    (spells : text.number.Spells pattern)
    (format : LongDoubleFormat)
    (order : ByteOrder)
    (destination : List UInt8) :
    (LongDoubleSource.text text.content).encode format order destination =
      (LongDoubleSource.double pattern).encode format order destination := by
  have parts :
      format.partsOfDecimal text.number.decimal =
        format.partsOfDouble pattern := by
    cases format with
    | double =>
        exact congrArg (fun bits => [Scalar.double bits])
          (doubleOfRounded_of_spells short spells)
    | x87 => exact partsOfDecimal_wide short spells .extended
    | binary128 => exact partsOfDecimal_wide short spells .quadruple
    | doubleDouble =>
        exact congrArg LongDoubleFormat.pairParts
          (doublePairOfDecimal_of_spells short spells)
  rw [text.encode_eq, parts]
  rfl

end Spelled

/-- A text that spells a double, with a point and an exponent. -/
def pointedText : WrittenText where
  front := []
  number :=
    { sign := .minus
      whole := [0]
      fraction? := some [2, 5]
      exponent? := some
        { capital := true
          sign := .plus
          digits := [1]
          nonempty := List.cons_ne_nil _ _ }
      nonempty := List.cons_ne_nil _ _ }
  back := ['\n']
  blank_front := List.forall_mem_nil _
  blank_back := List.forall_mem_singleton.mpr rfl

theorem pointedText_encodes_as_double :
    (LongDoubleSource.text "-0.25E+1\n").encode .x87 .bigEndian
        (List.replicate 12 0xff) =
      (LongDoubleSource.double 0xc004000000000000).encode .x87 .bigEndian
        (List.replicate 12 0xff) := by
  have short : pointedText.content.utf8ByteSize < 2 ^ 31 := by decide +kernel
  have spells : pointedText.number.Spells 0xc004000000000000 := by
    have fields :
        BinaryFields.ofDouble 0xc004000000000000 = ⟨1, 1024, 2 ^ 50⟩ := by
      decide +kernel
    constructor
    · rw [fields]
      decide
    · rw [fields]
      rfl
    · rw [fields]
      norm_num [WrittenDecimal.magnitude, WrittenDecimal.exponent,
        WrittenExponent.value, WrittenSign.apply, WrittenSign.isNegative,
        WrittenDecimal.digits, WrittenDecimal.fraction, numberOfDigits,
        Nat.ofDigits, pointedText, BinaryFields.magnitude,
        BinaryFields.significand, BinaryFields.place, Shape.unit,
        Shape.binary64]
  exact text_encodes_as_double short spells .x87 .bigEndian _

end CallFrame
