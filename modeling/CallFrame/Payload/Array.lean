/-!
# Arrays passed by address

An array is passed by address as a list of elements of one of eight types.
The integers `byte`, `short`, `int` and `long` have one, two, four and eight
bytes, a `char` is a UTF-16 code unit and a truth value takes one byte.

Floating point elements are kept as bit patterns.  Bytes that packing itself
made, such as those of a `long double` that does not fit its slot, form an
array of bytes too, but one that nobody else holds.
-/

namespace CallFrame

/-- The types that the elements of an array can have. -/
inductive ComponentType where
  | byte
  | short
  | int
  | long
  | float
  | double
  | boolean
  | char
deriving DecidableEq, Repr

namespace ComponentType

/-- The name under which an element type is reported. -/
def name : ComponentType → String
  | byte => "Byte"
  | short => "Short"
  | int => "Int"
  | long => "Long"
  | float => "Float"
  | double => "Double"
  | boolean => "Boolean"
  | char => "Char"

/-- All element types. -/
def all : List ComponentType :=
  [byte, short, int, long, float, double, boolean, char]

/-- The number of bytes of one element. -/
def size : ComponentType → Nat
  | byte | boolean => 1
  | short | char => 2
  | int | float => 4
  | long | double => 8

end ComponentType

/-- What stands behind an object, and so how its address is obtained. -/
inductive ObjectType where
  | array (component : ComponentType)
  | buffer
deriving DecidableEq, Repr

/-- The elements of an array that is passed by address. -/
inductive ArrayData where
  | byte (elements : List Int8)
  | short (elements : List Int16)
  | int (elements : List Int32)
  | long (elements : List Int64)
  | float (patterns : List UInt32)
  | double (patterns : List UInt64)
  | boolean (elements : List Bool)
  | char (elements : List UInt16)
  | scratch (bytes : List UInt8)
deriving DecidableEq, Repr

namespace ArrayData

/-- The element type of an array. -/
def component : ArrayData → ComponentType
  | byte _ | scratch _ => .byte
  | short _ => .short
  | int _ => .int
  | long _ => .long
  | float _ => .float
  | double _ => .double
  | boolean _ => .boolean
  | char _ => .char

/-- The number of elements of an array. -/
def length : ArrayData → Nat
  | byte elements => elements.length
  | short elements => elements.length
  | int elements => elements.length
  | long elements => elements.length
  | float patterns => patterns.length
  | double patterns => patterns.length
  | boolean elements => elements.length
  | char elements => elements.length
  | scratch bytes => bytes.length

/-- Whether an array has no element. -/
def isEmpty (array : ArrayData) : Bool :=
  array.length == 0

end ArrayData

end CallFrame
