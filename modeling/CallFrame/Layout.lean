import CallFrame.LongDouble.Format
import CallFrame.Platform

/-!
# Layout of the primitive types

A platform gives each primitive type a size and an alignment.  The sizes of
the fixed-width types never change; what changes is the alignment of the
8-byte types on 32-bit x86, the width of `long` and of an address, and
everything about `long double`.
-/

namespace CallFrame

/-- The size and alignment of one type, in bytes. -/
structure TypeLayout where
  size : Nat
  alignment : Nat
deriving DecidableEq, Repr

/-- The layout of every primitive type. -/
structure PrimitiveLayout where
  sint8 : TypeLayout
  sint16 : TypeLayout
  sint32 : TypeLayout
  sint64 : TypeLayout
  long : TypeLayout
  float : TypeLayout
  double : TypeLayout
  longDouble : TypeLayout
  pointer : TypeLayout
  slotSize : Nat
  longDoubleFormat : LongDoubleFormat
  byteOrder : ByteOrder
deriving DecidableEq, Repr

namespace Platform

/--
The alignment of integers of 64 bits and of doubles.  On 32-bit x86 it is four
bytes, Windows excepted.
-/
def wideAlignment (platform : Platform) : Nat :=
  match platform.cpu, platform.os with
  | .i386, .windows => 8
  | .i386, _ => 4
  | _, _ => 8

/-- The layout of `double`. -/
def doubleLayout (platform : Platform) : TypeLayout :=
  ⟨8, platform.wideAlignment⟩

/-- The layout and format of `long double`. -/
def longDoubleLayout
    (platform : Platform) :
    TypeLayout × LongDoubleFormat :=
  match platform.cpu, platform.os with
  | .i386, .windows => (platform.doubleLayout, .double)
  | .x86_64, .windows => (platform.doubleLayout, .double)
  | .i386, .darwin => (⟨16, 16⟩, .x87)
  | .i386, _ => (⟨12, 4⟩, .x87)
  | .x86_64, _ => (⟨16, 16⟩, .x87)
  | .aarch64, .darwin => (platform.doubleLayout, .double)
  | .aarch64, .windows => (platform.doubleLayout, .double)
  | .arm, _ => (platform.doubleLayout, .double)
  | .mips, _ => (platform.doubleLayout, .double)
  | .unknown, _ => (platform.doubleLayout, .double)
  | .ppc, _ => (⟨16, 16⟩, .doubleDouble)
  | .ppc64, _ => (⟨16, 16⟩, .doubleDouble)
  | .ppc64le, _ => (⟨16, 16⟩, .doubleDouble)
  | .sparc, _ => (⟨16, 8⟩, .binary128)
  | _, _ => (⟨16, 16⟩, .binary128)

/-- The layout of every primitive type on a platform. -/
def layout (platform : Platform) : PrimitiveLayout :=
  let address := platform.addressWidth.bytes
  let long := platform.longWidth.bytes
  { sint8 := ⟨1, 1⟩
    sint16 := ⟨2, 2⟩
    sint32 := ⟨4, 4⟩
    sint64 := ⟨8, platform.wideAlignment⟩
    long := ⟨long, min long platform.wideAlignment⟩
    float := ⟨4, 4⟩
    double := platform.doubleLayout
    longDouble := platform.longDoubleLayout.1
    pointer := ⟨address, address⟩
    slotSize := address
    longDoubleFormat := platform.longDoubleLayout.2
    byteOrder := platform.byteOrder }

end Platform

end CallFrame
