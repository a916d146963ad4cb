import CallFrame.LongDouble.Encoding
import CallFrame.NativeType
import CallFrame.Payload.Table
import CallFrame.Writer

/-!
# Arguments

A put supplies one argument.  Seven kinds are written into the frame as they
are, a `long double` and a struct are copied or passed by address, and the
rest is always passed by address.

A declared type takes arguments of one supplied kind.  A pointer is more
liberal: besides a plain address it takes a reference or a struct, whose
address is filled in later.  The C type `long` takes integers of its own size.
-/

namespace CallFrame

/-- An argument that a put supplies. -/
inductive Argument where
  /-- A value that is written as it is. -/
  | primitive (value : Primitive)
  /-- A `long double`, from a double or from text. -/
  | longDouble (source : LongDoubleSource)
  /-- An array and the window of it that the callee sees. -/
  | array (data : ArrayData) (offset length : Nat) (flags : ParameterFlags)
  /-- Native memory and the window of it that the callee sees. -/
  | directBuffer (bytes : List UInt8) (offset length : Nat)
  /-- An object with the window and the storage that it reports. -/
  | object (type : ObjectType) (offset length : Nat) (flags : ParameterFlags)
  /-- The environment of the caller. -/
  | environment
  /-- A handle of a managed object. -/
  | handle (object : String)
  /-- A struct, taken from its bytes at an offset. -/
  | struct (bytes : List UInt8) (offset : Nat)
  /-- The address of a struct, and the bytes that are in memory there. -/
  | structAt (address : UInt64) (memory : List UInt8)
deriving DecidableEq, Repr

/-- The kind of value that an argument supplies. -/
def Argument.suppliedKind : Argument → SuppliedKind
  | primitive value => value.suppliedKind
  | longDouble _ => .longDouble
  | array _ _ _ _ => .reference
  | directBuffer _ _ _ => .reference
  | object _ _ _ _ => .reference
  | environment => .reference
  | handle _ => .reference
  | struct _ _ => .struct
  | structAt _ _ => .struct

/-- Whether a declared type takes values of a supplied kind. -/
def SuppliedKind.accepts (supplied : SuppliedKind) (type : NativeType) : Bool :=
  match supplied, type.kind with
  | .byte, .sint8 | .byte, .uint8 => true
  | .short, .sint16 | .short, .uint16 => true
  | .int, .sint32 | .int, .uint32 => true
  | .int, .slong | .int, .ulong => type.size == 4
  | .long, .sint64 | .long, .uint64 => true
  | .long, .slong | .long, .ulong => type.size == 8
  | .float, .float => true
  | .double, .double => true
  | .longDouble, .longDouble => true
  | .address, .pointer => true
  | .reference, .pointer | .reference, .object => true
  | .struct, .struct | .struct, .pointer => true
  | _, _ => false

end CallFrame
