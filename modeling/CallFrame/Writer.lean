import CallFrame.Bytes
import CallFrame.Platform

/-!
# Primitive arguments and their writer

Seven kinds of argument are written into a frame as they are: integers of four
widths, numbers of single and double precision, and addresses.  How many bytes
an address takes depends on the machine, so the bytes of a primitive belong to
a writer, which knows a byte order and an address width.

Floating point numbers are written through their bit patterns.  A writer of
32-bit addresses keeps the low half of an address.
-/

namespace CallFrame

/-- An argument that is written into the frame as it is. -/
inductive Primitive where
  | byte (value : Int8)
  | short (value : Int16)
  | int (value : Int32)
  | long (value : Int64)
  | float (pattern : UInt32)
  | double (pattern : UInt64)
  | address (value : UInt64)
deriving DecidableEq, Repr

namespace Primitive

/-- The kind of value that a primitive supplies. -/
def suppliedKind : Primitive → SuppliedKind
  | byte _ => .byte
  | short _ => .short
  | int _ => .int
  | long _ => .long
  | float _ => .float
  | double _ => .double
  | address _ => .address

/-- The bits of a primitive, read as an unsigned number. -/
def bits : Primitive → Nat
  | byte value => value.toUInt8.toNat
  | short value => value.toUInt16.toNat
  | int value => value.toUInt32.toNat
  | long value => value.toUInt64.toNat
  | float pattern => pattern.toNat
  | double pattern => pattern.toNat
  | address value => value.toNat

/-- The number of bytes of a primitive, given the width of an address. -/
def width (addressWidth : AddressWidth) : Primitive → Nat
  | byte _ => 1
  | short _ => 2
  | int _ => 4
  | long _ => 8
  | float _ => 4
  | double _ => 8
  | address _ => addressWidth.bytes

end Primitive

/-- A byte order and an address width to write primitives with. -/
structure Writer where
  byteOrder : ByteOrder
  addressWidth : AddressWidth
deriving DecidableEq, Repr

namespace Writer

/-- The writer of little-endian bytes and 32-bit addresses. -/
def le32 : Writer :=
  ⟨.littleEndian, .w32⟩

/-- The writer of little-endian bytes and 64-bit addresses. -/
def le64 : Writer :=
  ⟨.littleEndian, .w64⟩

/-- The writer of big-endian bytes and 32-bit addresses. -/
def be32 : Writer :=
  ⟨.bigEndian, .w32⟩

/-- The writer of big-endian bytes and 64-bit addresses. -/
def be64 : Writer :=
  ⟨.bigEndian, .w64⟩

/-- The four writers. -/
def all : List Writer :=
  [le32, le64, be32, be64]

/-- The name under which a writer is reported. -/
def name : Writer → String
  | ⟨.littleEndian, .w32⟩ => "Le32"
  | ⟨.littleEndian, .w64⟩ => "Le64"
  | ⟨.bigEndian, .w32⟩ => "Be32"
  | ⟨.bigEndian, .w64⟩ => "Be64"

/--
The writer of a byte order and a number of address bits.  Any number of bits
other than 64 is taken for 32.
-/
def ofBits (order : ByteOrder) (addressBits : Nat) : Writer :=
  ⟨order, if addressBits = 64 then .w64 else .w32⟩

/-- The writer that matches a platform. -/
def ofPlatform (platform : Platform) : Writer :=
  ⟨platform.byteOrder, platform.addressWidth⟩

/-- The number of bytes of an address. -/
def addressBytes (writer : Writer) : Nat :=
  writer.addressWidth.bytes

/-- The bytes that a writer gives to a primitive. -/
def encode (writer : Writer) (primitive : Primitive) : List UInt8 :=
  writer.byteOrder.encode (primitive.width writer.addressWidth) primitive.bits

/-- Write a primitive at an offset of a buffer. -/
def put
    (writer : Writer)
    (offset : Nat)
    (primitive : Primitive) :
    Action (List UInt8) Unit :=
  writeAt offset (writer.encode primitive)

@[simp]
theorem length_encode (writer : Writer) (primitive : Primitive) :
    (writer.encode primitive).length =
      primitive.width writer.addressWidth := by
  simp [encode]

/-- A writer is known by its byte order and the bits of its addresses. -/
theorem ofBits_addressWidth (writer : Writer) :
    ofBits writer.byteOrder writer.addressWidth.bits = writer := by
  rcases writer with ⟨order, width⟩
  cases width <;> rfl

end Writer

end CallFrame
