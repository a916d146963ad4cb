import CallFrame.ByteOrder
import Mathlib

/-!
# Laws of byte orders

Decoding the bytes of a number returns the number, less the bits above the
width.  The order makes no difference, since one order is the reversal of the
other.
-/

namespace CallFrame

theorem littleValue_littleBytes (width value : Nat) :
    littleValue (littleBytes width value) = value % 256 ^ width := by
  induction width generalizing value with
  | zero => simp [littleBytes, littleValue, Nat.mod_one]
  | succ width ih =>
    have split : value % 256 ^ (width + 1) =
        value % 256 + 256 * (value / 256 % 256 ^ width) := by
      rw [Nat.pow_succ', Nat.mod_mul]
    rw [littleBytes, littleValue, ih, split, UInt8.toNat_ofNat']

namespace ByteOrder

theorem decode_encode (order : ByteOrder) (width value : Nat) :
    order.decode (order.encode width value) = value % 256 ^ width := by
  cases order <;> simp [encode, decode, littleValue_littleBytes]

end ByteOrder

end CallFrame
