import CallFrame.Platform
import CallFrame.Settings

/-!
# Hosts

A host is the process that packs frames.  Its platform follows from the target
that it has been compiled for, and its settings from the variables that it finds.

A signature for which no platform is named is one for the platform of the host,
and one for which no options are named is packed as the settings of the host ask
for.
-/

namespace CallFrame

/-- What a program is compiled for, in the words of its compiler. -/
structure Target where
  architecture : String
  system : String
  vendor : String
  /-- The number of bits of a pointer. -/
  pointerBits : Nat
  byteOrder : ByteOrder
deriving DecidableEq, Repr

/-- The family of an architecture, which some families share with another order. -/
def Cpu.ofTarget (target : Target) : Cpu :=
  match target.architecture with
  | "x86" => .i386
  | "x86_64" => .x86_64
  | "arm" => .arm
  | "aarch64" => .aarch64
  | "powerpc" => .ppc
  | "powerpc64" => if target.byteOrder = .littleEndian then .ppc64le else .ppc64
  | "s390x" => .s390x
  | "sparc" => .sparc
  | "sparc64" => .sparcv9
  | "mips" => .mips
  | "mips64" => if target.byteOrder = .littleEndian then .mips64el else .mips64
  | "riscv64" => .riscv64
  | "loongarch64" => .loongarch64
  | _ => .unknown

/-- The operating system of a target; some are known by their vendor. -/
def Os.ofTarget (target : Target) : Os :=
  if target.system = "linux" ∨ target.system = "android" then .linux
  else if target.vendor = "apple" then .darwin
  else if target.system = "windows" then .windows
  else if target.system = "freebsd" then .freeBsd
  else if target.system = "openbsd" then .openBsd
  else .other

/--
The platform of a target.  Its address width and byte order are those of the
target, whatever is usual for the family.
-/
def Platform.ofTarget (target : Target) : Platform where
  cpu := .ofTarget target
  os := .ofTarget target
  addressWidth := if target.pointerBits = 32 then .w32 else .w64
  byteOrder := target.byteOrder

/-- The process that packs frames. -/
structure Host where
  /-- The platform that frames are packed for when none is named. -/
  platform : Platform
  /-- The settings that hold when none are named. -/
  settings : Settings
deriving DecidableEq, Repr

/-- The process of a program for a target that finds the given variables. -/
def Host.ofTarget
    (target : Target)
    (lookup : String → Option String) :
    Host where
  platform := .ofTarget target
  settings := .ofVariables lookup

end CallFrame
