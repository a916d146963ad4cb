import CallFrame.Kind

/-!
# What can go wrong

Packing a frame is a local computation, so its errors are few: bytes that do
not fit, a value that the signature does not declare, and text that is no
number.  Describing a type or a platform can fail too, when the description
itself makes no sense; those causes are kept apart because nothing is packed
from a faulty description.
-/

namespace CallFrame

/-- The causes for which bytes, a value or a window are refused. -/
inductive Error where
  /-- Bytes would be read or written outside the buffer or the source. -/
  | outOfBounds
  /-- A value was put after all declared parameters had one. -/
  | parameterCount (index count : Nat)
  /-- A value was put that the declared kind of the parameter refuses. -/
  | parameterMismatch (index : Nat) (declared : Kind) (found : SuppliedKind)
  /-- A struct was put for a parameter that the signature does not have. -/
  | undeclaredStruct (index : Nat)
  /-- The null address was put where the bytes of a struct are copied. -/
  | nullStruct (index : Nat)
  /-- The text given for a `long double` is no number. -/
  | notDecimal (text : String)
deriving DecidableEq, Repr

namespace Error

/-- The sentence that describes an error. -/
def message : Error → String
  | outOfBounds => "Out of Bound write would have occurred!"
  | parameterCount index count =>
    "Parameter index " ++ toString index ++ " exceeds the signature's " ++
      toString count ++ " parameters"
  | parameterMismatch index declared found =>
    "Parameter " ++ toString index ++ " is declared as " ++ declared.name ++
      ", but a " ++ found.name ++ " value was put"
  | undeclaredStruct index =>
    "Not supported - struct parameter " ++ toString index ++
      " is not declared by the signature"
  | nullStruct index =>
    "Not supported - null pointer for by-value struct parameter " ++
      toString index
  | notDecimal text =>
    "Long double conversion failed - '" ++ text ++
      "' is not a decimal number"

end Error

/-- The causes for which a description of a type or platform is refused. -/
inductive DescriptionError where
  /-- An aggregate was described as if it were a primitive. -/
  | aggregateWithoutLayout
  /-- The alignment of an aggregate is no power of two. -/
  | alignmentNotPowerOfTwo
  /-- The width of an address is neither 32 nor 64 bits. -/
  | addressWidth
deriving DecidableEq, Repr

namespace DescriptionError

/-- The sentence that describes a faulty description. -/
def message : DescriptionError → String
  | aggregateWithoutLayout => "aggregates have no primitive layout"
  | alignmentNotPowerOfTwo => "alignment must be a power of two"
  | addressWidth => "address size must be 32 or 64 bits"

end DescriptionError

end CallFrame
