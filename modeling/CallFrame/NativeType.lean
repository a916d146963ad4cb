import CallFrame.Align
import CallFrame.Error
import CallFrame.Layout

/-!
# Native types

A native type is a kind with a size and an alignment.  A primitive takes them
from the platform.  An aggregate takes them from its fields, by the rules of C:
each field starts at the first multiple of its alignment after the field
before it, and the whole is padded to a multiple of the widest alignment.  An
aggregate may also be given a size and an alignment outright.
-/

namespace CallFrame

/-- A kind of value with the size and alignment it has in memory. -/
structure NativeType where
  /-- What the value is. -/
  kind : Kind
  /-- The number of bytes that a value takes. -/
  size : Nat
  /-- The power of two that its offset is a multiple of. -/
  alignment : Nat
deriving DecidableEq, Repr

/-- The layout of a kind; an aggregate has none before its fields are known. -/
def Kind.layout? (kind : Kind) (platform : Platform) : Option TypeLayout :=
  let layout := platform.layout
  match kind with
  | .void => some ⟨0, 1⟩
  | .sint8 | .uint8 => some layout.sint8
  | .sint16 | .uint16 => some layout.sint16
  | .sint32 | .uint32 => some layout.sint32
  | .slong | .ulong => some layout.long
  | .sint64 | .uint64 => some layout.sint64
  | .float => some layout.float
  | .double => some layout.double
  | .longDouble => some layout.longDouble
  | .pointer | .object => some layout.pointer
  | .struct => none

namespace NativeType

/-- Whether values of a type are integers. -/
def isInteger (type : NativeType) : Bool :=
  type.kind.isInteger

/-- The type of no value. -/
def void : NativeType :=
  ⟨.void, 0, 1⟩

/-- The primitive type of a kind on a platform. -/
def primitive
    (kind : Kind)
    (platform : Platform) :
    Except DescriptionError NativeType :=
  match kind.layout? platform with
  | some layout => .ok ⟨kind, layout.size, layout.alignment⟩
  | none => .error .aggregateWithoutLayout

/-- The offset after a field that is placed at or after an offset. -/
def offsetAfter (offset : Nat) (field : NativeType) : Nat :=
  alignUp offset field.alignment + field.size

/-- The widest alignment among the fields of an aggregate. -/
def widestAlignment (fields : List NativeType) : Nat :=
  fields.foldl (fun widest field => max widest field.alignment) 1

/-- The aggregate of the given fields, laid out by the rules of C. -/
def aggregate (fields : List NativeType) : NativeType :=
  let alignment := widestAlignment fields
  ⟨.struct, alignUp (fields.foldl offsetAfter 0) alignment, alignment⟩

/-- The aggregate of a size and an alignment that must be a power of two. -/
def aggregateWithLayout
    (size alignment : Nat) :
    Except DescriptionError NativeType :=
  if 1 <<< alignment.log2 = alignment then
    .ok ⟨.struct, size, alignment⟩
  else
    .error .alignmentNotPowerOfTwo

theorem primitive_void (platform : Platform) :
    primitive .void platform = .ok void := rfl

end NativeType

end CallFrame
