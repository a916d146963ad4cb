import CallFrame.Proofs.LongDoubleImage
import CallFrame.Proofs.Rounding.Fields
import CallFrame.Proofs.Rounding.Reading
import CallFrame.Scalar.Lemmas

/-!
# Wide numbers from text

The bytes of a wide number are read back as its fields.  Extended precision
keeps its significand in eight bytes and the sign with the exponent in two more,
the least significant byte first in both; quadruple precision is one number of
sixteen bytes in the byte order of the frame, whose leading bit is left out.

With that, everything from the text to the bytes comes together: the text is
read as the number that is written in it, the number is rounded once, the
result is assembled into fields, and the fields are what the bytes hold.
-/

namespace CallFrame

open LongDoubleFormat (bytesOf)

/-! ## Reading fields -/

/-- The fields of the ten bytes of an extended number. -/
def readExtended (bytes : List UInt8) : WideFields :=
  let signExponent := littleValue (window bytes 8 2)
  { negative := 2 ^ 15 ≤ signExponent
    exponent := signExponent % 2 ^ 15
    significand := littleValue (window bytes 0 8) }

/-- The fields of the sixteen bytes of a quadruple number. -/
def readQuadruple (order : ByteOrder) (bytes : List UInt8) : WideFields :=
  let bits := order.decode (window bytes 0 16)
  let exponent := bits / 2 ^ 112 % 2 ^ 15
  { negative := 2 ^ 127 ≤ bits
    exponent
    significand := (if exponent = 0 then 0 else 2 ^ 112) + bits % 2 ^ 112 }

/-- The fields at the start of the bytes of a wide number. -/
def WideFormat.read
    (wide : WideFormat)
    (order : ByteOrder)
    (bytes : List UInt8) :
    WideFields :=
  match wide with
  | extended => readExtended bytes
  | quadruple => readQuadruple order bytes

theorem window_append_left (front rest : List UInt8) :
    window (front ++ rest) 0 front.length = front := by
  rw [window, List.drop_zero, List.take_left]

theorem window_append_right (front middle rest : List UInt8) :
    window (front ++ (middle ++ rest)) front.length middle.length =
      middle := by
  rw [window, List.drop_left, List.take_left]

namespace WideFields

/-- The numbers that fields are stored as. -/
def parts (fields : WideFields) : WideFormat → List Scalar
  | .extended =>
    LongDoubleFormat.extendedParts
      { signExponent :=
          .ofNat (signBit fields.negative <<< 15 + fields.exponent)
        significand := .ofNat fields.significand }
  | .quadruple =>
    [.uint128 (.ofNat 128
      ((signBit fields.negative <<< 15 + fields.exponent) <<< 112 +
        fields.significand % (1 <<< 112)))]

theorem extendedOfRounded_eq (negative : Bool) (rounded : Rounded) :
    LongDoubleFormat.extendedParts (extendedOfRounded negative rounded) =
      (ofRounded .extended negative rounded).parts .extended := by
  cases rounded <;> rfl

theorem quadrupleOfRounded_eq (negative : Bool) (rounded : Rounded) :
    [Scalar.uint128 (quadrupleOfRounded negative rounded)] =
      (ofRounded .quadruple negative rounded).parts .quadruple := by
  cases rounded with
  | zero =>
      rw [quadrupleOfRounded, ofRounded, parts]
      dsimp only
      rw [Nat.zero_mod, Nat.add_zero, Nat.add_zero]
  | infinite =>
      have bits : WideFormat.quadruple.shape.precision - 1 = 112 := rfl
      rw [quadrupleOfRounded, ofRounded, parts]
      dsimp only
      rw [bits, ← Nat.one_shiftLeft, Nat.mod_self, infiniteExponent]
      exact congrArg (fun word => [Scalar.uint128 (.ofNat 128 word)])
        (Nat.add_zero _).symm
  | finite exponent significand => rfl

theorem partsOfDecimal_eq (wide : WideFormat) (decimal : Decimal) :
    wide.format.partsOfDecimal decimal =
      (ofRounded wide decimal.negative (decimal.round wide.shape)).parts
        wide := by
  cases wide with
  | extended => exact extendedOfRounded_eq decimal.negative _
  | quadruple => exact quadrupleOfRounded_eq decimal.negative _

theorem Encodes.exponent_lt
    {fields : WideFields}
    {shape : Shape}
    {negative : Bool}
    {magnitude : ℚ}
    (encodes : fields.Encodes shape negative magnitude) :
    fields.exponent < 2 ^ 15 := by
  rcases lt_or_ge magnitude shape.overflowBound with finite | infinite
  · exact (encodes.finite finite).1.trans (by decide)
  · rw [(encodes.infinite infinite).1]
    decide

/-- A sign above an exponent field keeps both apart. -/
theorem signBit_shiftLeft_add
    (negative : Bool)
    {exponent : ℕ}
    (exponent_lt : exponent < 2 ^ 15) :
    signBit negative <<< 15 + exponent < 2 ^ 16 ∧
      (signBit negative <<< 15 + exponent) % 2 ^ 15 = exponent ∧
      (2 ^ 15 ≤ signBit negative <<< 15 + exponent ↔ negative = true) := by
  rw [Nat.shiftLeft_eq]
  cases negative with
  | true =>
      rw [signBit, if_pos rfl]
      exact ⟨by omega, by omega, iff_of_true (by omega) rfl⟩
  | false =>
      rw [signBit, if_neg Bool.false_ne_true]
      exact ⟨by omega, by omega, iff_of_false (by omega) Bool.false_ne_true⟩

/-- What is stored of extended fields is read back. -/
theorem readExtended_parts
    {fields : WideFields}
    (exponent_lt : fields.exponent < 2 ^ 15)
    (significand_lt : fields.significand < 2 ^ 64)
    (rest : List UInt8) :
    readExtended
        (bytesOf .littleEndian (fields.parts .extended) ++ rest) =
      fields := by
  obtain ⟨top_lt, low, sign⟩ :=
    signBit_shiftLeft_add fields.negative exponent_lt
  set top := signBit fields.negative <<< 15 + fields.exponent with topDef
  have stored :
      bytesOf .littleEndian (fields.parts .extended) ++ rest =
        littleBytes 8 fields.significand ++ (littleBytes 2 top ++ rest) := by
    have word : (UInt64.ofNat fields.significand).toNat = fields.significand :=
      UInt64.toNat_ofNat_of_lt' significand_lt
    have half : (UInt16.ofNat top).toNat = top :=
      UInt16.toNat_ofNat_of_lt' top_lt
    simp only [parts, LongDoubleFormat.extendedParts, bytesOf,
      List.flatMap_cons, List.flatMap_nil, List.append_nil, List.append_assoc,
      Scalar.encode, Scalar.kind, Scalar.bits, ScalarKind.width,
      ByteOrder.encode, ← topDef, word, half]
  have significand :
      littleValue (window (littleBytes 8 fields.significand ++
        (littleBytes 2 top ++ rest)) 0 8) = fields.significand := by
    have front := window_append_left (littleBytes 8 fields.significand)
      (littleBytes 2 top ++ rest)
    rw [length_littleBytes] at front
    rw [front, littleValue_littleBytes]
    exact Nat.mod_eq_of_lt significand_lt
  have signExponent :
      littleValue (window (littleBytes 8 fields.significand ++
        (littleBytes 2 top ++ rest)) 8 2) = top := by
    have middle := window_append_right (littleBytes 8 fields.significand)
      (littleBytes 2 top) rest
    rw [length_littleBytes, length_littleBytes] at middle
    rw [middle, littleValue_littleBytes]
    exact Nat.mod_eq_of_lt top_lt
  rw [readExtended, stored, significand, signExponent]
  apply WideFields.ext
  · exact Bool.eq_iff_iff.mpr (decide_eq_true_iff.trans sign)
  · exact low
  · rfl

/-- What is stored of quadruple fields is read back. -/
theorem readQuadruple_parts
    {fields : WideFields}
    (exponent_lt : fields.exponent < 2 ^ 15)
    (significand_lt : fields.significand < 2 ^ 113)
    (leading_iff : 2 ^ 112 ≤ fields.significand ↔ fields.exponent ≠ 0)
    (order : ByteOrder)
    (rest : List UInt8) :
    readQuadruple order
        (bytesOf order (fields.parts .quadruple) ++ rest) =
      fields := by
  obtain ⟨top_lt, low, sign⟩ :=
    signBit_shiftLeft_add fields.negative exponent_lt
  set top := signBit fields.negative <<< 15 + fields.exponent with topDef
  set bits := top <<< 112 + fields.significand % (1 <<< 112) with bitsDef
  have split : bits = top * 2 ^ 112 + fields.significand % 2 ^ 112 := by
    rw [bitsDef, Nat.shiftLeft_eq, Nat.one_shiftLeft]
  have bits_lt : bits < 2 ^ 128 := by omega
  have stored :
      bytesOf order (fields.parts .quadruple) ++ rest =
        order.encode 16 bits ++ rest := by
    have word : (BitVec.ofNat 128 bits).toNat = bits := by
      rw [BitVec.toNat_ofNat]
      exact Nat.mod_eq_of_lt bits_lt
    simp only [parts, bytesOf, List.flatMap_cons, List.flatMap_nil,
      List.append_nil, Scalar.encode, Scalar.kind, Scalar.bits,
      ScalarKind.width, ← topDef, ← bitsDef, word]
  have decoded :
      order.decode (window (order.encode 16 bits ++ rest) 0 16) = bits := by
    have front := window_append_left (order.encode 16 bits) rest
    rw [ByteOrder.length_encode] at front
    rw [front, ByteOrder.decode_encode]
    exact Nat.mod_eq_of_lt bits_lt
  have exponent : bits / 2 ^ 112 % 2 ^ 15 = fields.exponent := by
    omega
  rw [readQuadruple, stored, decoded]
  apply WideFields.ext
  · apply Bool.eq_iff_iff.mpr (decide_eq_true_iff.trans _)
    rw [← sign]
    omega
  · exact exponent
  · show (if bits / 2 ^ 112 % 2 ^ 15 = 0 then 0 else 2 ^ 112) +
      bits % 2 ^ 112 = fields.significand
    rw [exponent]
    by_cases zero : fields.exponent = 0
    · rw [if_pos zero]
      omega
    · rw [if_neg zero]
      omega

/-- What is stored of the fields of a wide number is read back. -/
theorem read_parts
    {wide : WideFormat}
    {fields : WideFields}
    (exponent_lt : fields.exponent < 2 ^ 15)
    (significand_lt : fields.significand < 2 ^ wide.shape.precision)
    (leading_iff :
      2 ^ (wide.shape.precision - 1) ≤ fields.significand ↔
        fields.exponent ≠ 0)
    (order : ByteOrder)
    (rest : List UInt8) :
    wide.read order
        (bytesOf (wide.format.storageOrder order) (fields.parts wide) ++
          rest) =
      fields := by
  cases wide with
  | extended => exact readExtended_parts exponent_lt significand_lt rest
  | quadruple =>
      exact readQuadruple_parts exponent_lt significand_lt leading_iff order rest

theorem Encodes.read_parts
    {wide : WideFormat}
    {fields : WideFields}
    {negative : Bool}
    {magnitude : ℚ}
    (encodes : fields.Encodes wide.shape negative magnitude)
    (order : ByteOrder)
    (rest : List UInt8) :
    wide.read order
        (bytesOf (wide.format.storageOrder order) (fields.parts wide) ++
          rest) =
      fields :=
  WideFields.read_parts encodes.exponent_lt encodes.significand_lt
    encodes.leading_iff order rest

end WideFields

/-! ## From text to bytes -/

theorem WideFormat.supported (wide : WideFormat) : wide.shape.Supported := by
  cases wide
  · exact Shape.supported_x87
  · exact Shape.supported_binary128

/--
The text of a decimal number, with blanks around it, is encoded in a wide format
as the number of that format that is nearest to the written one.  The magnitude
is rounded exactly once, ties go to an even significand, the sign is kept, and
the result is infinite exactly from the overflow bound on.  The leading bit of
the significand is set exactly when the exponent field is not zero.  What is
left of the destination is cleared.
-/
theorem text_encodes_nearest
    (wide : WideFormat)
    (text : WrittenText)
    (short : text.content.utf8ByteSize < 2 ^ 31)
    (order : ByteOrder)
    (destination : List UInt8)
    (room : wide.format.encodedLength ≤ destination.length) :
    ∃ bytes,
      (LongDoubleSource.text text.content).encode wide.format order
          destination = .ok () bytes ∧
        bytes.length = destination.length ∧
        (wide.read order bytes).Encodes wide.shape
          text.number.sign.isNegative text.number.magnitude ∧
        bytes.drop wide.format.encodedLength =
          List.replicate (destination.length - wide.format.encodedLength) 0 := by
  set rounded := text.number.decimal.round wide.shape
  set fields :=
    WideFields.ofRounded wide text.number.sign.isNegative rounded
  have encodes :
      fields.Encodes wide.shape text.number.sign.isNegative
        text.number.magnitude :=
    WideFields.encodes_ofRounded _ (text.round_correct short wide.supported)
  have parts :
      (LongDoubleSource.text text.content).parts wide.format =
        .ok (fields.parts wide) := by
    rw [LongDoubleSource.parts, text.parse_content]
    exact congrArg Except.ok
      (WideFields.partsOfDecimal_eq wide text.number.decimal)
  have filled := LongDoubleSource.totalWidth_parts parts
  refine
    ⟨wide.format.image order (fields.parts wide) destination.length,
      ?_, wide.format.length_image order filled room, ?_, ?_⟩
  · rw [LongDoubleSource.encode_settles _ _ _ destination]
    dsimp only
    rw [LongDoubleSource.image, parts]
    exact congrArg (Action.settled · destination) (if_pos room)
  · rw [LongDoubleFormat.image, encodes.read_parts]
    exact encodes
  · rw [LongDoubleFormat.image, ← filled, ← LongDoubleFormat.length_bytesOf]
    exact List.drop_left

/-- A number that is written with blanks around it. -/
def blankedText : WrittenText where
  front := ['\t']
  number :=
    { sign := .minus
      whole := [⟨1, by decide⟩]
      fraction? := some [⟨5, by decide⟩]
      exponent? := some
        { capital := false
          sign := .absent
          digits := [⟨1, by decide⟩]
          nonempty := List.cons_ne_nil _ _ }
      nonempty := List.cons_ne_nil _ _ }
  back := [' ']
  blank_front := List.forall_mem_singleton.mpr rfl
  blank_back := List.forall_mem_singleton.mpr rfl

theorem blankedText_encodes_nearest :
    ∃ bytes,
      (LongDoubleSource.text "\t-1.5e1 ").encode .x87 .bigEndian
          (List.replicate 12 0xff) = .ok () bytes ∧
        (readExtended bytes).Encodes .x87 true 15 := by
  have short : blankedText.content.utf8ByteSize < 2 ^ 31 := by decide +kernel
  have room :
      LongDoubleFormat.x87.encodedLength ≤
        (List.replicate 12 (0xff : UInt8)).length := by
    decide
  have magnitude : blankedText.number.magnitude = 15 := by
    norm_num [WrittenDecimal.magnitude, WrittenDecimal.exponent,
      WrittenExponent.value, WrittenSign.apply, WrittenSign.isNegative,
      WrittenDecimal.digits, WrittenDecimal.fraction, numberOfDigits,
      Nat.ofDigits, blankedText]
  obtain ⟨bytes, encoded, -, encodes, -⟩ :=
    text_encodes_nearest .extended blankedText short .bigEndian _ room
  rw [magnitude] at encodes
  exact ⟨bytes, encoded, encodes⟩

end CallFrame
