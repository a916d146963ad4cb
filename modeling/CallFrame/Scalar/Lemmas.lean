import CallFrame.ByteOrder.Lemmas
import CallFrame.Scalar

/-!
# Laws of scalars

The bits of a scalar fit its width, so a scalar is recovered from its bytes in
either order.
-/

namespace CallFrame.Scalar

/-- The bits of a number fit the width of its kind. -/
theorem bits_lt (scalar : Scalar) :
    scalar.bits < 256 ^ scalar.kind.width := by
  cases scalar with
  | uint8 value => exact value.toNat_lt
  | int8 value => exact value.toUInt8.toNat_lt
  | uint16 value => exact value.toNat_lt
  | int16 value => exact value.toUInt16.toNat_lt
  | uint32 value => exact value.toNat_lt
  | int32 value => exact value.toUInt32.toNat_lt
  | uint64 value => exact value.toNat_lt
  | int64 value => exact value.toUInt64.toNat_lt
  | uint128 value => exact value.isLt
  | float pattern => exact pattern.toNat_lt
  | double pattern => exact pattern.toNat_lt

@[simp]
theorem length_encode (scalar : Scalar) (order : ByteOrder) :
    (scalar.encode order).length = scalar.kind.width :=
  order.length_encode _ _

/-- A number is recovered from its bytes. -/
theorem decode_encode (scalar : Scalar) (order : ByteOrder) :
    decode scalar.kind order (scalar.encode order) = scalar := by
  rw [decode, encode, ByteOrder.decode_encode,
    Nat.mod_eq_of_lt scalar.bits_lt, ofBits_bits]

end CallFrame.Scalar
