/-!
# Byte order

A number of a fixed width is stored as bytes, least significant first or most
significant first.  There is one encoder, `littleBytes`, and one decoder,
`littleValue`; the other order is their reversal.  Bits above the width are
dropped by the encoder.
-/

namespace CallFrame

/-- Which byte of a number comes first in memory. -/
inductive ByteOrder where
  | littleEndian
  | bigEndian
deriving DecidableEq, Repr

/-- The given number of bytes of a number, least significant first. -/
def littleBytes : Nat → Nat → List UInt8
  | 0, _ => []
  | width + 1, value => UInt8.ofNat value :: littleBytes width (value / 256)

/-- The number whose bytes are given, least significant first. -/
def littleValue : List UInt8 → Nat
  | [] => 0
  | byte :: rest => byte.toNat + 256 * littleValue rest

@[simp]
theorem length_littleBytes (width value : Nat) :
    (littleBytes width value).length = width := by
  induction width generalizing value with
  | zero => rfl
  | succ width ih => simp [littleBytes, ih]

/-- Bytes are recovered from the number that they denote. -/
theorem littleBytes_littleValue (bytes : List UInt8) :
    littleBytes bytes.length (littleValue bytes) = bytes := by
  induction bytes with
  | nil => rfl
  | cons byte rest ih =>
    have bound : byte.toNat < 256 := byte.toNat_lt
    rw [List.length_cons, littleBytes, littleValue]
    congr 1
    · apply UInt8.toNat_inj.mp
      rw [UInt8.toNat_ofNat']
      omega
    · rw [show (byte.toNat + 256 * littleValue rest) / 256 =
        littleValue rest by omega, ih]

namespace ByteOrder

/-- The name under which a byte order is reported. -/
def name : ByteOrder → String
  | littleEndian => "LittleEndian"
  | bigEndian => "BigEndian"

/-- Both byte orders. -/
def all : List ByteOrder :=
  [littleEndian, bigEndian]

/-- The bytes of a number in a byte order and a width. -/
def encode
    (order : ByteOrder)
    (width value : Nat) :
    List UInt8 :=
  match order with
  | littleEndian => littleBytes width value
  | bigEndian => (littleBytes width value).reverse

/-- The number that bytes denote in a byte order. -/
def decode (order : ByteOrder) (bytes : List UInt8) : Nat :=
  match order with
  | littleEndian => littleValue bytes
  | bigEndian => littleValue bytes.reverse

@[simp]
theorem length_encode (order : ByteOrder) (width value : Nat) :
    (order.encode width value).length = width := by
  cases order <;> simp [encode]

theorem encode_decode (order : ByteOrder) (bytes : List UInt8) :
    order.encode bytes.length (order.decode bytes) = bytes := by
  cases order with
  | littleEndian => exact littleBytes_littleValue bytes
  | bigEndian =>
    have reversed := littleBytes_littleValue bytes.reverse
    rw [List.length_reverse] at reversed
    simp [encode, decode, reversed]

/-- The two orders of one number are each other's reversal. -/
theorem encode_bigEndian_eq_reverse (width value : Nat) :
    bigEndian.encode width value =
      (littleEndian.encode width value).reverse := rfl

end ByteOrder

end CallFrame
