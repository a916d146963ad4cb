import CallFrame.Encoder

/-!
# Call signatures

A signature declares what a call takes and returns: the types of the
parameters in order, the type of the result, the calling convention and the
options of the call.  It also records the platform by whose rules the native
frame of its parameters is measured.
-/

namespace CallFrame

/-- The calling convention of a function. -/
inductive Convention where
  | default
  | stdcall
deriving DecidableEq, Repr

namespace Convention

/-- The name under which a convention is reported. -/
def name : Convention → String
  | default => "Default"
  | stdcall => "Stdcall"

/-- Both conventions. -/
def all : List Convention :=
  [default, stdcall]

end Convention

/-- The options of a call, one bit each; bits without a meaning are kept. -/
structure CallFlags where
  /-- The bits of the options. -/
  bits : UInt32
deriving DecidableEq, Repr

namespace CallFlags

/-- No option. -/
def empty : CallFlags :=
  ⟨0⟩

/-- Capture the error number of the system after the call. -/
def saveErrno : CallFlags :=
  ⟨1⟩

/-- Make the call under protection against faults. -/
def faultProtect : CallFlags :=
  ⟨2⟩

/-- Pack the arguments to the native layout. -/
def rawPacking : CallFlags :=
  ⟨4⟩

/-- Whether all bits of some options are set. -/
def contains (flags options : CallFlags) : Bool :=
  flags.bits &&& options.bits == options.bits

/-- The options of a call for which none are named. -/
def ofSettings (settings : Settings) : CallFlags :=
  if settings.rawPacking then rawPacking else empty

end CallFlags

/-- What a call takes and returns. -/
structure Signature where
  /-- The types of the parameters, in order. -/
  parameters : List NativeType
  /-- The type of the result. -/
  returns : NativeType := .void
  /-- The calling convention. -/
  convention : Convention := .default
  /-- The options of the call. -/
  flags : CallFlags
  /-- The platform by whose rules the native frame is measured. -/
  platform : Platform
deriving DecidableEq, Repr

namespace Signature

/-- The signature of parameters on a host, which decides what is not named. -/
def build
    (host : Host)
    (parameters : List NativeType)
    (returns? : Option NativeType)
    (convention : Convention)
    (flags? : Option CallFlags)
    (platform? : Option Platform) :
    Signature where
  parameters := parameters
  returns := returns?.getD .void
  convention := convention
  flags := flags?.getD (.ofSettings host.settings)
  platform := platform?.getD host.platform

/-- The signature of parameters and a result for the platform of a host. -/
def native
    (host : Host)
    (parameters : List NativeType)
    (returns : NativeType) :
    Signature :=
  build host parameters (some returns) .default none none

/-- The number of parameters. -/
def parameterCount (signature : Signature) : Nat :=
  signature.parameters.length

/-- The type of a parameter, if it is declared. -/
def parameterType? (signature : Signature) (index : Nat) : Option NativeType :=
  signature.parameters[index]?

/-- Whether the arguments are packed to the native layout. -/
def isRaw (signature : Signature) : Bool :=
  signature.flags.contains .rawPacking

/-- The size of the native frame of the parameters. -/
def rawSize (signature : Signature) : Nat :=
  rawParameterSize signature.parameters signature.platform

end Signature

namespace Encoder

/-- The number of bytes of the frame that an encoder packs for a signature. -/
def bufferSize (encoder : Encoder) (signature : Signature) : Nat :=
  if encoder.isRaw then signature.rawSize
  else signature.parameterCount * fixedSlot

/--
The encoder for the platform and the packing that a signature asks for, which is
the one of the host if both agree with it.
-/
def ofSignature (host : Host) (signature : Signature) : Encoder :=
  if signature.platform = host.platform ∧
      signature.isRaw = (native host).isRaw then
    native host
  else
    select signature.platform signature.isRaw

/-- The host makes no difference to how the arguments of a signature are packed. -/
theorem ofSignature_eq_select (host : Host) (signature : Signature) :
    ofSignature host signature =
      select signature.platform signature.isRaw := by
  rw [ofSignature, native, isRaw_select]
  by_cases same :
      signature.platform = host.platform ∧
        signature.isRaw = host.settings.rawPacking
  · rw [if_pos same, same.1, same.2]
  · rw [if_neg same]

end Encoder

end CallFrame
