import CallFrame.Encoder
import CallFrame.Scalar.Lemmas

/-!
# Extents and the numbers in them

An extent is a range of bytes of a frame.  A primitive that has been put takes
an extent, and whoever reads a number of its kind there in the byte order of the
frame finds it again.  Of an address that is wider than the addresses of the
frame, what is found are the low bits.
-/

namespace CallFrame

/-- A range of bytes. -/
structure Extent where
  /-- The first byte. -/
  start : Nat
  /-- The number of bytes. -/
  width : Nat
deriving DecidableEq, Repr

namespace Extent

/-- The index behind the last byte. -/
def finish (extent : Extent) : Nat :=
  extent.start + extent.width

/-- Whether the byte at an index is in the range. -/
def Covers (extent : Extent) (index : Nat) : Prop :=
  extent.start ≤ index ∧ index < extent.finish

instance (extent : Extent) (index : Nat) : Decidable (extent.Covers index) :=
  inferInstanceAs (Decidable (_ ∧ _))

theorem readAt_of_finish_le
    {extent : Extent}
    {bytes : List UInt8}
    (inside : extent.finish ≤ bytes.length) :
    readAt bytes extent.start extent.width =
      .ok (window bytes extent.start extent.width) :=
  if_pos inside

theorem getElem?_of_mem_take
    {extent : Extent}
    {extents : List Extent}
    {count : Nat}
    (member : extent ∈ extents.take count) :
    ∃ position < count, extents[position]? = some extent := by
  obtain ⟨position, known⟩ := List.getElem?_of_mem member
  rw [List.getElem?_take] at known
  split at known
  · rename_i before
    exact ⟨position, before, known⟩
  · cases known

end Extent

/-! ## Primitives as numbers -/

/-- The number that is read back for a primitive; of an address the low bits. -/
def Primitive.scalar (addressWidth : AddressWidth) : Primitive → Scalar
  | .byte value => .int8 value
  | .short value => .int16 value
  | .int value => .int32 value
  | .long value => .int64 value
  | .float pattern => .float pattern
  | .double pattern => .double pattern
  | .address value =>
    match addressWidth with
    | .w32 => .uint32 value.toUInt32
    | .w64 => .uint64 value

theorem ByteOrder.encode_mod (order : ByteOrder) (width value : Nat) :
    order.encode width (value % 256 ^ width) = order.encode width value := by
  have again := order.encode_decode (order.encode width value)
  rw [length_encode, decode_encode] at again
  exact again

theorem Writer.encode_eq_scalar (writer : Writer) (value : Primitive) :
    writer.encode value =
      (value.scalar writer.addressWidth).encode writer.byteOrder := by
  rcases writer with ⟨order, width⟩
  cases value with
  | address value =>
      cases width with
      | w32 =>
          show order.encode 4 value.toNat = order.encode 4 value.toUInt32.toNat
          rw [UInt64.toNat_toUInt32]
          exact (order.encode_mod 4 value.toNat).symm
      | w64 => rfl
  | _ => rfl

theorem Writer.length_encode_eq_width (writer : Writer) (value : Primitive) :
    (writer.encode value).length =
      (value.scalar writer.addressWidth).kind.width := by
  rw [encode_eq_scalar, Scalar.length_encode]

theorem littleBytes_zero (width : Nat) :
    littleBytes width 0 = List.replicate width 0 := by
  induction width with
  | zero => rfl
  | succ width induction =>
      rw [littleBytes, Nat.zero_div, induction, List.replicate_succ]
      rfl

/-- The zero address is made of zeros. -/
theorem Writer.encode_zero (writer : Writer) :
    writer.encode (.address 0) =
      List.replicate (writer.encode (.address 0)).length 0 := by
  have zeros (order : ByteOrder) (width : Nat) :
      order.encode width 0 = List.replicate width 0 := by
    cases order
    · exact littleBytes_zero width
    · rw [ByteOrder.encode, littleBytes_zero, List.reverse_replicate]
  rw [length_encode]
  exact zeros _ _

/-! ## Reading an extent -/

/-- A primitive takes the bytes of an extent and is read back from them. -/
def Encoder.Reads
    (encoder : Encoder)
    (bytes : List UInt8)
    (extent : Extent)
    (value : Primitive) :
    Prop :=
  let scalar := value.scalar encoder.writer.addressWidth
  extent.width = scalar.kind.width ∧
    Scalar.readFrom scalar.kind encoder.byteOrder bytes extent.start =
      .ok scalar

section Reading

variable {encoder : Encoder} {bytes : List UInt8} {extent : Extent}

theorem Encoder.reads_of_window
    {value : Primitive}
    (width : (encoder.writer.encode value).length = extent.width)
    (inside : extent.finish ≤ bytes.length)
    (held :
      window bytes extent.start extent.width = encoder.writer.encode value) :
    encoder.Reads bytes extent value := by
  have kind :
      extent.width =
        (value.scalar encoder.writer.addressWidth).kind.width :=
    width.symm.trans (encoder.writer.length_encode_eq_width value)
  have taken :
      readAt bytes extent.start extent.width =
        .ok ((value.scalar encoder.writer.addressWidth).encode
          encoder.byteOrder) := by
    rw [Extent.readAt_of_finish_le inside, held, Writer.encode_eq_scalar]
    rfl
  refine ⟨kind, ?_⟩
  rw [Scalar.readFrom, ← kind, taken]
  exact congrArg Except.ok (Scalar.decode_encode _ _)

end Reading

end CallFrame
