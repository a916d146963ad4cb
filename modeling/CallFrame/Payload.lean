import CallFrame.Payload.Array

/-!
# Payloads

The address of an array, of native memory or of a handle is not known while a
frame is packed.  What such an argument supplies instead is a payload: the
data that the address will point to, or a note of what to look up.  An object
is known by the storage behind it, and a managed object by its handle; the
environment of the caller needs no data at all.

The callee sees a window of the data, counted in elements of the source.  A
window that is not wholly inside its source is refused; objects and handles
have no source to check.
-/

namespace CallFrame

/-- The kinds of payload. -/
inductive PayloadKind where
  | primitiveArray
  | directBuffer
  | struct
  | object
  | environment
  | handle
deriving DecidableEq, Repr

/-- The name under which a kind of payload is reported. -/
def PayloadKind.name : PayloadKind → String
  | primitiveArray => "PrimitiveArray"
  | directBuffer => "DirectBuffer"
  | struct => "Struct"
  | object => "Object"
  | environment => "JniEnvironment"
  | handle => "JniObject"

/-- The source of an argument that is passed by address. -/
inductive Payload where
  | array (data : ArrayData)
  | directBuffer (bytes : List UInt8)
  | struct (bytes : List UInt8)
  | object (type : ObjectType)
  | environment
  | handle (object : String)
deriving DecidableEq, Repr

namespace Payload

/-- The kind of a payload. -/
def kind : Payload → PayloadKind
  | array _ => .primitiveArray
  | directBuffer _ => .directBuffer
  | struct _ => .struct
  | object _ => .object
  | environment => .environment
  | handle _ => .handle

/-- The number of elements of a source, if it has a source. -/
def sourceLength? : Payload → Option Nat
  | array data => some data.length
  | directBuffer bytes => some bytes.length
  | struct bytes => some bytes.length
  | object _ => none
  | environment => none
  | handle _ => none

/-- Whether a window is wholly inside the source. -/
def covers (payload : Payload) (offset length : Nat) : Bool :=
  match payload.sourceLength? with
  | some available => offset + length ≤ available
  | none => true

/-! ## Description -/

/-- Items in brackets, with a comma and a blank between them. -/
def bracketed (items : List String) : String :=
  "[" ++ ", ".intercalate items ++ "]"

/-- The description of an array; numbers of floating point have none. -/
def describeArray : ArrayData → Option String
  | .byte elements =>
    some ("Byte(" ++ bracketed (elements.map (toString ·.toInt)) ++ ")")
  | .short elements =>
    some ("Short(" ++ bracketed (elements.map (toString ·.toInt)) ++ ")")
  | .int elements =>
    some ("Int(" ++ bracketed (elements.map (toString ·.toInt)) ++ ")")
  | .long elements =>
    some ("Long(" ++ bracketed (elements.map (toString ·.toInt)) ++ ")")
  | .float _ => none
  | .double _ => none
  | .boolean elements =>
    some ("Boolean(" ++
      bracketed (elements.map fun element =>
        if element then "true" else "false") ++ ")")
  | .char elements =>
    some ("Char(" ++ bracketed (elements.map (toString ·.toNat)) ++ ")")
  | .scratch bytes =>
    some ("Scratch(" ++ bracketed (bytes.map (toString ·.toNat)) ++ ")")

/--
The description of a payload.  Memory and structs are described by the length
of their source; objects and arrays of floating point have no description.
-/
def describe : Payload → Option String
  | array data => (describeArray data).map ("Array(" ++ · ++ ")")
  | directBuffer bytes =>
    some ("DirectBuffer(" ++ toString bytes.length ++ ")")
  | struct bytes => some ("Struct(" ++ toString bytes.length ++ ")")
  | object _ => none
  | environment => some "JniEnvironment"
  | handle _ => some "JniObject"

end Payload

end CallFrame
