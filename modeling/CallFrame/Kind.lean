/-!
# Kinds of values

Two vocabularies meet when an argument is put into a frame.  A signature
declares the kind of each parameter, and a put supplies a value of some kind.
Several declared kinds accept one kind of value: the sign of an integer makes
no difference to its bytes.

The supplied integers `byte`, `short`, `int` and `long` have one, two, four and
eight bytes.  An `address` is supplied as a number; a `reference` is data or a
handle whose address is filled in when the call is made.
-/

namespace CallFrame

/-- The kinds that a signature can declare. -/
inductive Kind where
  | void
  | sint8
  | uint8
  | sint16
  | uint16
  | sint32
  | uint32
  | slong
  | ulong
  | sint64
  | uint64
  | float
  | double
  | longDouble
  | pointer
  | struct
  | object
deriving DecidableEq, Repr

namespace Kind

/-- The name under which a declared kind is reported. -/
def name : Kind → String
  | void => "Void"
  | sint8 => "SInt8"
  | uint8 => "UInt8"
  | sint16 => "SInt16"
  | uint16 => "UInt16"
  | sint32 => "SInt32"
  | uint32 => "UInt32"
  | slong => "SLong"
  | ulong => "ULong"
  | sint64 => "SInt64"
  | uint64 => "UInt64"
  | float => "Float"
  | double => "Double"
  | longDouble => "LongDouble"
  | pointer => "Pointer"
  | struct => "Struct"
  | object => "Object"

/-- All declared kinds. -/
def all : List Kind :=
  [void, sint8, uint8, sint16, uint16, sint32, uint32, slong, ulong, sint64,
    uint64, float, double, longDouble, pointer, struct, object]

/-- Whether a declared kind is an integer. -/
def isInteger : Kind → Bool
  | sint8 | uint8 | sint16 | uint16 | sint32 | uint32 | slong | ulong
  | sint64 | uint64 => true
  | void | float | double | longDouble | pointer | struct | object => false

end Kind

/-- The kinds of value that a put can supply. -/
inductive SuppliedKind where
  | byte
  | short
  | int
  | long
  | float
  | double
  | longDouble
  | address
  | reference
  | struct
deriving DecidableEq, Repr

/-- The name under which a supplied kind is reported. -/
def SuppliedKind.name : SuppliedKind → String
  | byte => "byte"
  | short => "short"
  | int => "int"
  | long => "long"
  | float => "float"
  | double => "double"
  | longDouble => "long_double"
  | address => "address"
  | reference => "reference"
  | struct => "struct"

end CallFrame
