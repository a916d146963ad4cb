import CallFrame.Bytes
import CallFrame.ByteOrder

/-!
# Scalars in a buffer

A scalar is a number of one of eleven fixed-width kinds.  Its bits are a
natural number that fits its width, and a kind turns bits back into a
scalar; floating point numbers are their bit patterns throughout.

A cursor is a buffer with the offset of the next access.  A write or a read at
the cursor moves it behind the scalar; one that does not fit fails.
-/

namespace CallFrame

/-- The kinds of number that have a fixed width. -/
inductive ScalarKind where
  | uint8
  | int8
  | uint16
  | int16
  | uint32
  | int32
  | uint64
  | int64
  | uint128
  | float
  | double
deriving DecidableEq, Repr

/-- The number of bytes of a kind of number. -/
def ScalarKind.width : ScalarKind → Nat
  | uint8 | int8 => 1
  | uint16 | int16 => 2
  | uint32 | int32 | float => 4
  | uint64 | int64 | double => 8
  | uint128 => 16

/-- A number of a fixed width. -/
inductive Scalar where
  | uint8 (value : UInt8)
  | int8 (value : Int8)
  | uint16 (value : UInt16)
  | int16 (value : Int16)
  | uint32 (value : UInt32)
  | int32 (value : Int32)
  | uint64 (value : UInt64)
  | int64 (value : Int64)
  | uint128 (value : BitVec 128)
  | float (pattern : UInt32)
  | double (pattern : UInt64)
deriving DecidableEq, Repr

namespace Scalar

/-- The kind of a number. -/
def kind : Scalar → ScalarKind
  | uint8 _ => .uint8
  | int8 _ => .int8
  | uint16 _ => .uint16
  | int16 _ => .int16
  | uint32 _ => .uint32
  | int32 _ => .int32
  | uint64 _ => .uint64
  | int64 _ => .int64
  | uint128 _ => .uint128
  | float _ => .float
  | double _ => .double

/-- The bits of a number, read as an unsigned one. -/
def bits : Scalar → Nat
  | uint8 value => value.toNat
  | int8 value => value.toUInt8.toNat
  | uint16 value => value.toNat
  | int16 value => value.toUInt16.toNat
  | uint32 value => value.toNat
  | int32 value => value.toUInt32.toNat
  | uint64 value => value.toNat
  | int64 value => value.toUInt64.toNat
  | uint128 value => value.toNat
  | float pattern => pattern.toNat
  | double pattern => pattern.toNat

/-- The number of a kind that has the given bits. -/
def ofBits (kind : ScalarKind) (bits : Nat) : Scalar :=
  match kind with
  | .uint8 => uint8 (.ofNat bits)
  | .int8 => int8 (UInt8.ofNat bits).toInt8
  | .uint16 => uint16 (.ofNat bits)
  | .int16 => int16 (UInt16.ofNat bits).toInt16
  | .uint32 => uint32 (.ofNat bits)
  | .int32 => int32 (UInt32.ofNat bits).toInt32
  | .uint64 => uint64 (.ofNat bits)
  | .int64 => int64 (UInt64.ofNat bits).toInt64
  | .uint128 => uint128 (.ofNat 128 bits)
  | .float => float (.ofNat bits)
  | .double => double (.ofNat bits)

@[simp]
theorem ofBits_bits (scalar : Scalar) :
    ofBits scalar.kind scalar.bits = scalar := by
  cases scalar <;> simp [kind, bits, ofBits]

/-- The bytes of a number in a byte order. -/
def encode (scalar : Scalar) (order : ByteOrder) : List UInt8 :=
  order.encode scalar.kind.width scalar.bits

/-- The number of a kind that bytes denote in a byte order. -/
def decode
    (kind : ScalarKind)
    (order : ByteOrder)
    (bytes : List UInt8) :
    Scalar :=
  ofBits kind (order.decode bytes)

/-- Read a number at an offset of a buffer. -/
def readFrom
    (kind : ScalarKind)
    (order : ByteOrder)
    (buffer : List UInt8)
    (offset : Nat) :
    Except Error Scalar :=
  match readAt buffer offset kind.width with
  | .ok bytes => .ok (decode kind order bytes)
  | .error error => .error error

end Scalar

/-- A buffer with the offset of the next access to it. -/
structure Cursor where
  /-- The bytes. -/
  buffer : List UInt8
  /-- Where the next number is written or read. -/
  offset : Nat
deriving DecidableEq, Repr

namespace Cursor

/-- Move the cursor to an offset, which may lie outside the buffer. -/
def seek (cursor : Cursor) (offset : Nat) : Cursor :=
  { cursor with offset }

/-- Act on the buffer of a cursor. -/
def onBuffer
    {Result : Type}
    (action : Action (List UInt8) Result) :
    Action Cursor Result :=
  Action.onPart Cursor.buffer
    (fun changed cursor => { cursor with buffer := changed }) action

/-- Move the cursor forward by a number of bytes. -/
def skip (width : Nat) : Action Cursor Unit :=
  modify fun cursor => cursor.seek (cursor.offset + width)

/-- Write a number at the cursor and move behind it. -/
def write (order : ByteOrder) (scalar : Scalar) : Action Cursor Unit := do
  let cursor ← get
  onBuffer (writeAt cursor.offset (scalar.encode order))
  skip scalar.kind.width

/-- Read a number at the cursor and move behind it. -/
def read (order : ByteOrder) (kind : ScalarKind) : Action Cursor Scalar := do
  let cursor ← get
  let scalar ← MonadExcept.ofExcept
    (Scalar.readFrom kind order cursor.buffer cursor.offset)
  skip kind.width
  return scalar

/-- Act with a cursor at the start of a buffer. -/
def fromStart
    {Result : Type}
    (action : Action Cursor Result) :
    Action (List UInt8) Result :=
  Action.onPart (fun buffer => ⟨buffer, 0⟩)
    (fun changed _ => changed.buffer) action

end Cursor

end CallFrame
