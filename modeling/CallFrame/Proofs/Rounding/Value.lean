import CallFrame.Proofs.Rounding.Double

/-!
# Doubles as numbers

A finite double stands for its magnitude with its sign, and its last bit for a
unit.  This module says what it means that the fields of a double are those of a
magnitude that was rounded once, and shows it of every pattern that is assembled
from a correctly rounded magnitude.

Doubles are stored in eight bytes each, and a pair of them one behind the other.
-/

namespace CallFrame

open LongDoubleFormat (bytesOf)

/-! ## Numbers with a sign -/

/-- A magnitude with a sign. -/
def signed (negative : Bool) (magnitude : ℚ) : ℚ :=
  if negative then -magnitude else magnitude

@[simp]
theorem signed_zero (negative : Bool) : signed negative 0 = 0 := by
  cases negative <;> simp [signed]

@[simp]
theorem abs_signed (negative : Bool) (magnitude : ℚ) :
    |signed negative magnitude| = |magnitude| := by
  cases negative <;> simp [signed]

@[simp]
theorem signed_not (negative : Bool) (magnitude : ℚ) :
    signed (!negative) magnitude = -signed negative magnitude := by
  cases negative <;> simp [signed]

theorem signed_sub (negative : Bool) (left right : ℚ) :
    signed negative left - signed negative right =
      signed negative (left - right) := by
  cases negative
  · rfl
  · exact neg_sub_neg left right |>.trans (neg_sub left right).symm

theorem signed_add (negative : Bool) (left right : ℚ) :
    signed negative left + signed negative right =
      signed negative (left + right) := by
  cases negative
  · rfl
  · exact (neg_add left right).symm

theorem signed_injective (negative : Bool) :
    Function.Injective (signed negative) := by
  cases negative
  · exact fun _ _ same => same
  · exact neg_injective

/-- A number is negative if its sign and its magnitude disagree. -/
theorem signed_neg_iff
    {number : ℚ}
    (negative : Bool)
    (nonzero : number ≠ 0) :
    decide (signed negative number < 0) = (negative != decide (number < 0)) := by
  rcases nonzero.lt_or_gt with below | above
  · cases negative <;> simp [signed, below, below.le]
  · cases negative <;> simp [signed, above, above.le]

/-- With its own sign a magnitude is as close to a number as to its size. -/
theorem abs_sub_signed (number magnitude : ℚ) :
    |number - signed (number < 0) magnitude| =
      abs (|number| - magnitude) := by
  rcases lt_or_ge number 0 with below | above
  · rw [decide_eq_true below, abs_of_neg below, signed, if_pos rfl,
      ← abs_neg (number - -magnitude)]
    congr 1
    ring
  · rw [decide_eq_false above.not_gt, abs_of_nonneg above]
    rfl

namespace BinaryFields

/-! ## The value of a double -/

/-- Whether the sign is set. -/
def negative (fields : BinaryFields) : Bool :=
  fields.sign != 0

/-- The number that the fields of a finite double stand for. -/
def value (fields : BinaryFields) : ℚ :=
  signed fields.negative (fields.magnitude 1023)

/-- The unit in the last place of a finite double. -/
def unit (fields : BinaryFields) : ℚ :=
  Shape.binary64.unit (fields.place 1023)

theorem magnitude_nonneg (fields : BinaryFields) (bias : ℕ) :
    0 ≤ fields.magnitude bias := by
  have positive := Shape.binary64.unit_pos (fields.place bias)
  rw [magnitude]
  positivity

theorem abs_value (fields : BinaryFields) :
    |fields.value| = fields.magnitude 1023 := by
  rw [value, abs_signed, abs_of_nonneg (fields.magnitude_nonneg 1023)]

/-- Zero without a sign. -/
theorem magnitude_ofDouble_zero : (ofDouble 0).magnitude 1023 = 0 := by
  rw [magnitude, show (ofDouble 0).significand = 0 from rfl, Nat.cast_zero,
    zero_mul]

theorem value_ofDouble_zero : (ofDouble 0).value = 0 := by
  rw [value, magnitude_ofDouble_zero, signed_zero]

theorem Finite.canonical_binary64
    {fields : BinaryFields}
    (finite : fields.Finite 1023) :
    Shape.binary64.Canonical (fields.place 1023) fields.significand := by
  have canonical := finite.canonical Shape.biased_binary64
  rw [show Shape.binary64.precision - 53 = 0 from rfl, pow_zero,
    mul_one] at canonical
  exact canonical

/-- The exponent field of the infinities and of what is not a number. -/
def infiniteExponent : ℕ :=
  0x7ff

/-- A double that is not infinite is written canonically in its own shape. -/
theorem canonical_ofDouble
    {pattern : UInt64}
    (number : (ofDouble pattern).exponent ≠ infiniteExponent) :
    Shape.binary64.Canonical ((ofDouble pattern).place 1023)
      (ofDouble pattern).significand :=
  (finite_ofDouble number).canonical_binary64

/-! ## Fields of a rounded magnitude -/

/--
The fields of a double are those of a magnitude with a sign, rounded once to the
nearest double with ties to an even significand.
-/
structure Encodes
    (fields : BinaryFields)
    (negative : Bool)
    (magnitude : ℚ) :
    Prop where
  negative_eq : fields.negative = negative
  infinite :
    Shape.binary64.overflowBound ≤ magnitude →
      fields.exponent = infiniteExponent ∧ fields.fraction = 0
  finite :
    magnitude < Shape.binary64.overflowBound →
      fields.exponent < infiniteExponent ∧
        Shape.binary64.IsNearest magnitude (fields.magnitude 1023)
          fields.significand

/-- Of a finite double it is enough to say what it is the nearest one to. -/
theorem encodes_iff_of_finite
    {fields : BinaryFields}
    {magnitude : ℚ}
    (finite : fields.exponent < infiniteExponent) :
    fields.Encodes fields.negative magnitude ↔
      magnitude < Shape.binary64.overflowBound ∧
        Shape.binary64.IsNearest magnitude (fields.magnitude 1023)
          fields.significand := by
  constructor
  · intro encodes
    have below : magnitude < Shape.binary64.overflowBound := by
      by_contra above
      exact finite.ne (encodes.infinite (not_lt.mp above)).1
    exact ⟨below, (encodes.finite below).2⟩
  · rintro ⟨below, nearest⟩
    exact ⟨rfl, fun above => absurd below (not_lt.mpr above),
      fun _ => ⟨finite, nearest⟩⟩

/-- The fields of a rounded magnitude with a sign. -/
def ofRounded (negative : Bool) (rounded : Rounded) : BinaryFields :=
  match rounded with
  | .zero => ⟨signBit negative, 0, 0⟩
  | .infinite => ⟨signBit negative, infiniteExponent, 0⟩
  | .finite exponent significand =>
    ⟨signBit negative, exponentField 53 1023 exponent significand,
      significand % 2 ^ 52⟩

theorem negative_ofRounded (negative : Bool) (rounded : Rounded) :
    (ofRounded negative rounded).negative = negative := by
  cases rounded <;> cases negative <;> rfl

section Rounded

variable {exponent : ℤ} {significand : ℕ}

theorem significand_ofRounded
    (negative : Bool)
    (canonical : Shape.binary64.Canonical exponent significand) :
    (ofRounded negative (.finite exponent significand)).significand =
      significand := by
  have bits : significand < 2 ^ 53 := canonical.significand_lt
  have leading :
      2 ^ 52 ≤ significand ↔
        exponentField 53 1023 exponent significand ≠ 0 :=
    leading_iff_exponentField Shape.biased_binary64 canonical
  rw [ofRounded, BinaryFields.significand]
  dsimp only
  split_ifs with subnormal
  · have small := mt leading.mp (not_not_intro subnormal)
    omega
  · have large := leading.mpr subnormal
    omega

theorem place_ofRounded
    (negative : Bool)
    (canonical : Shape.binary64.Canonical exponent significand) :
    (ofRounded negative (.finite exponent significand)).place 1023 =
      exponent := by
  have field :
      max (exponentField 53 1023 exponent significand : ℤ) 1 =
        exponent + (1023 : ℕ) :=
    max_exponentField Shape.biased_binary64 canonical
  rw [ofRounded, place]
  dsimp only
  rw [field, add_sub_cancel_right]

/-- The fields of a correctly rounded magnitude are those of its encoding. -/
theorem encodes_ofRounded
    {rounded : Rounded}
    {magnitude : ℚ}
    (negative : Bool)
    (correct : rounded.Correct .binary64 magnitude) :
    (ofRounded negative rounded).Encodes negative magnitude := by
  refine ⟨negative_ofRounded negative rounded, ?_, ?_⟩
  · intro infinite
    cases rounded with
    | zero => exact absurd correct.1 (not_lt.mpr infinite)
    | infinite => exact ⟨rfl, rfl⟩
    | finite exponent significand =>
        exact absurd correct.1 (not_lt.mpr infinite)
  · intro finite
    cases rounded with
    | zero =>
        refine ⟨Nat.zero_lt_succ _, ?_⟩
        have none : (ofRounded negative .zero).significand = 0 := rfl
        rw [BinaryFields.magnitude, none, Nat.cast_zero, zero_mul]
        exact correct.2
    | infinite => exact absurd finite (not_lt.mpr correct)
    | finite exponent significand =>
        obtain ⟨-, canonical, nearest⟩ := correct
        constructor
        · exact Nat.lt_succ_of_le
            (exponentField_le Shape.biased_binary64 canonical)
        · rw [BinaryFields.magnitude, significand_ofRounded negative canonical,
            place_ofRounded negative canonical]
          exact nearest

end Rounded

/-! ## Assembled patterns -/

/-- The fields that a pattern is assembled from are found in it. -/
theorem ofDouble_ofNat
    {sign exponent fraction : ℕ}
    (sign_lt : sign < 2)
    (exponent_lt : exponent < 2 ^ 11)
    (fraction_lt : fraction < 2 ^ 52) :
    ofDouble (.ofNat ((sign <<< 11 + exponent) <<< 52 + fraction)) =
      ⟨sign, exponent, fraction⟩ := by
  rw [Nat.shiftLeft_eq, Nat.shiftLeft_eq]
  set bits := (sign * 2 ^ 11 + exponent) * 2 ^ 52 + fraction with split
  have word : (UInt64.ofNat bits).toNat = bits :=
    UInt64.toNat_ofNat_of_lt' (by rw [UInt64.size]; omega)
  rw [ofDouble, word, Nat.shiftRight_eq_div_pow, Nat.shiftRight_eq_div_pow,
    Nat.one_shiftLeft, Nat.one_shiftLeft]
  congr 1 <;> omega

theorem signBit_lt (negative : Bool) : signBit negative < 2 := by
  cases negative <;> decide

theorem ofDouble_doubleOfRounded
    {rounded : Rounded}
    {magnitude : ℚ}
    (negative : Bool)
    (correct : rounded.Correct .binary64 magnitude) :
    ofDouble (doubleOfRounded negative rounded) =
      ofRounded negative rounded := by
  have sign := signBit_lt negative
  have none : 0 < 2 ^ 52 := Nat.two_pow_pos 52
  cases rounded with
  | zero =>
      have fields := ofDouble_ofNat sign (Nat.two_pow_pos 11) none
      rw [Nat.add_zero, Nat.add_zero] at fields
      exact fields
  | infinite =>
      have special : infiniteExponent < 2 ^ 11 := by decide
      have fields := ofDouble_ofNat sign special none
      rw [Nat.add_zero] at fields
      exact fields
  | finite exponent significand =>
      have field := exponentField_le Shape.biased_binary64 correct.2.1
      rw [show Shape.binary64.precision = 53 from rfl] at field
      have fraction : significand % 1 <<< 52 < 2 ^ 52 :=
        Nat.mod_lt _ (one_shiftLeft_pos 52)
      exact ofDouble_ofNat sign (by omega) fraction

/-- A pattern that is assembled from a rounded magnitude encodes it. -/
theorem encodes_doubleOfRounded
    {rounded : Rounded}
    {magnitude : ℚ}
    (negative : Bool)
    (correct : rounded.Correct .binary64 magnitude) :
    (ofDouble (doubleOfRounded negative rounded)).Encodes negative
      magnitude := by
  rw [ofDouble_doubleOfRounded negative correct]
  exact encodes_ofRounded negative correct

end BinaryFields

/-! ## Reading doubles -/

/-- The double in the eight bytes at an offset. -/
def readDouble
    (order : ByteOrder)
    (bytes : List UInt8)
    (offset : ℕ) :
    UInt64 :=
  .ofNat (order.decode (window bytes offset 8))

/-- The pair of doubles at the start of bytes. -/
def readPair (order : ByteOrder) (bytes : List UInt8) : DoublePair where
  high := readDouble order bytes 0
  low := readDouble order bytes 8

theorem encode_double (order : ByteOrder) (pattern : UInt64) :
    (Scalar.double pattern).encode order = order.encode 8 pattern.toNat := rfl

theorem decode_encode_double (order : ByteOrder) (pattern : UInt64) :
    UInt64.ofNat (order.decode (order.encode 8 pattern.toNat)) = pattern := by
  rw [ByteOrder.decode_encode]
  have word : pattern.toNat % 256 ^ 8 = pattern.toNat :=
    Nat.mod_eq_of_lt pattern.toNat_lt
  rw [word, UInt64.ofNat_toNat]

theorem readDouble_part
    (order : ByteOrder)
    (pattern : UInt64)
    (rest : List UInt8) :
    readDouble order (bytesOf order [.double pattern] ++ rest) 0 =
      pattern := by
  have front := window_append_left (order.encode 8 pattern.toNat) rest
  rw [ByteOrder.length_encode] at front
  rw [readDouble, bytesOf, List.flatMap_cons, List.flatMap_nil, List.append_nil,
    encode_double, front, decode_encode_double]

/-- What is stored of a pair is read back. -/
theorem readPair_parts
    (order : ByteOrder)
    (pair : DoublePair)
    (rest : List UInt8) :
    readPair order
        (bytesOf order (LongDoubleFormat.pairParts pair) ++ rest) =
      pair := by
  have stored :
      bytesOf order (LongDoubleFormat.pairParts pair) ++ rest =
        order.encode 8 pair.high.toNat ++
          (order.encode 8 pair.low.toNat ++ rest) := by
    simp only [LongDoubleFormat.pairParts, bytesOf, List.flatMap_cons,
      List.flatMap_nil, List.append_nil, List.append_assoc, encode_double]
  have front := window_append_left (order.encode 8 pair.high.toNat)
    (order.encode 8 pair.low.toNat ++ rest)
  have middle := window_append_right (order.encode 8 pair.high.toNat)
    (order.encode 8 pair.low.toNat) rest
  rw [ByteOrder.length_encode] at front
  rw [ByteOrder.length_encode, ByteOrder.length_encode] at middle
  rw [readPair, stored, readDouble, readDouble, front, middle,
    decode_encode_double, decode_encode_double]

end CallFrame
