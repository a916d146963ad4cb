/-!
# Formats of `long double`

The C type `long double` is one of four binary formats, by platform: that of
`double`, extended precision with 64 significand bits in ten bytes, quadruple
precision, and the unevaluated sum of two doubles.  This module names them and
gives the number of bytes that each one fills; what is left of the declared
size of the type is padding.
-/

namespace CallFrame

/-- The binary formats that `long double` has on some platform. -/
inductive LongDoubleFormat where
  | double
  | x87
  | binary128
  | doubleDouble
deriving DecidableEq, Repr

namespace LongDoubleFormat

/-- The name under which a format is reported. -/
def name : LongDoubleFormat → String
  | double => "Double"
  | x87 => "X87"
  | binary128 => "Binary128"
  | doubleDouble => "DoubleDouble"

/-- All formats. -/
def all : List LongDoubleFormat :=
  [double, x87, binary128, doubleDouble]

/-- The number of bytes that carry the value. -/
def encodedLength : LongDoubleFormat → Nat
  | double => 8
  | x87 => 10
  | binary128 => 16
  | doubleDouble => 16

end LongDoubleFormat

end CallFrame
