import CallFrame.ByteOrder
import CallFrame.Error

/-!
# Platforms

The layout of an argument frame depends on four facts about the machine that
receives it: the processor family, the operating system, the width of an
address and the byte order.  A family fixes the last two, and either of them
may be overridden afterwards, as a bi-endian processor or a 32-bit model on a
64-bit processor asks for.

Processors that are not named are taken for 64-bit little-endian ones, and
systems that are not named are taken to follow the System V rules.
-/

namespace CallFrame

/-- The processor families whose frames differ. -/
inductive Cpu where
  | i386
  | x86_64
  | arm
  | aarch64
  | ppc
  | ppc64
  | ppc64le
  | s390x
  | sparc
  | sparcv9
  | mips
  | mips64
  | mips64el
  | riscv64
  | loongarch64
  | unknown
deriving DecidableEq, Repr

/-- The operating systems whose frames differ. -/
inductive Os where
  | linux
  | darwin
  | windows
  | freeBsd
  | openBsd
  | other
deriving DecidableEq, Repr

/-- The two widths that an address can have. -/
inductive AddressWidth where
  | w32
  | w64
deriving DecidableEq, Repr

namespace AddressWidth

/-- The number of bits of an address. -/
def bits : AddressWidth → Nat
  | w32 => 32
  | w64 => 64

/-- The number of bytes of an address. -/
def bytes : AddressWidth → Nat
  | w32 => 4
  | w64 => 8

/-- The width of the given number of bits, if there is one. -/
def ofBits? : Nat → Option AddressWidth
  | 32 => some w32
  | 64 => some w64
  | _ => none

theorem ofBits?_bits (width : AddressWidth) :
    ofBits? width.bits = some width := by
  cases width <;> rfl

theorem bits_eq (width : AddressWidth) : width.bits = 8 * width.bytes := by
  cases width <;> rfl

end AddressWidth

namespace Cpu

/-- The name under which a processor family is reported. -/
def name : Cpu → String
  | i386 => "I386"
  | x86_64 => "X86_64"
  | arm => "Arm"
  | aarch64 => "Aarch64"
  | ppc => "Ppc"
  | ppc64 => "Ppc64"
  | ppc64le => "Ppc64le"
  | s390x => "S390x"
  | sparc => "Sparc"
  | sparcv9 => "Sparcv9"
  | mips => "Mips"
  | mips64 => "Mips64"
  | mips64el => "Mips64el"
  | riscv64 => "Riscv64"
  | loongarch64 => "Loongarch64"
  | unknown => "Unknown"

/-- All processor families. -/
def all : List Cpu :=
  [i386, x86_64, arm, aarch64, ppc, ppc64, ppc64le, s390x, sparc, sparcv9,
    mips, mips64, mips64el, riscv64, loongarch64, unknown]

/-- The address width of a family, unless it is overridden. -/
def addressWidth : Cpu → AddressWidth
  | i386 | arm | ppc | sparc | mips => .w32
  | x86_64 | aarch64 | ppc64 | ppc64le | s390x | sparcv9 | mips64 | mips64el
  | riscv64 | loongarch64 | unknown => .w64

/-- The byte order of a family, unless it is overridden. -/
def byteOrder : Cpu → ByteOrder
  | ppc | ppc64 | s390x | sparc | sparcv9 | mips | mips64 => .bigEndian
  | i386 | x86_64 | arm | aarch64 | ppc64le | mips64el | riscv64 | loongarch64
  | unknown => .littleEndian

end Cpu

namespace Os

/-- The name under which an operating system is reported. -/
def name : Os → String
  | linux => "Linux"
  | darwin => "Darwin"
  | windows => "Windows"
  | freeBsd => "FreeBsd"
  | openBsd => "OpenBsd"
  | other => "Other"

/-- All operating systems. -/
def all : List Os :=
  [linux, darwin, windows, freeBsd, openBsd, other]

end Os

/-- The facts about a machine on which argument frames depend. -/
structure Platform where
  cpu : Cpu
  os : Os
  addressWidth : AddressWidth
  byteOrder : ByteOrder
deriving DecidableEq, Repr

namespace Platform

/-- The platform with the address width and byte order of its family. -/
def ofFamily (cpu : Cpu) (os : Os) : Platform where
  cpu := cpu
  os := os
  addressWidth := cpu.addressWidth
  byteOrder := cpu.byteOrder

/-- Override the byte order of a platform. -/
def withByteOrder (platform : Platform) (order : ByteOrder) : Platform :=
  { platform with byteOrder := order }

/-- Override the address width of a platform. -/
def withAddressWidth
    (platform : Platform)
    (width : AddressWidth) :
    Platform :=
  { platform with addressWidth := width }

/-- Override the address width of a platform by a number of bits. -/
def withAddressBits
    (platform : Platform)
    (bits : Nat) :
    Except DescriptionError Platform :=
  match AddressWidth.ofBits? bits with
  | some width => .ok (platform.withAddressWidth width)
  | none => .error .addressWidth

/--
The width of the C type `long`: 32 bits on Windows, and the width of an
address everywhere else.
-/
def longWidth (platform : Platform) : AddressWidth :=
  if platform.os = .windows then .w32 else platform.addressWidth

end Platform

end CallFrame
