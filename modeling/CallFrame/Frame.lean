import CallFrame.Argument
import CallFrame.Signature

/-!
# The frame of one call

A frame is filled by one put for each parameter, in the order of the
signature.  A put hands its argument to the encoder, which decides where it
lands, and moves the cursor and the parameter index together.  An argument
that is passed by address leaves a zero address in its slot and an entry in
the table of payloads, which is made when the first such argument is put.

Puts are compared with the signature only if the frame validates them.
Otherwise a put of the wrong kind yields a frame that does not match the
signature, and only what does not fit is reported.

A put is an action on the frame, made of smaller actions on its bytes and on
its table of payloads.
-/

namespace CallFrame

/-- A frame while it is being filled. -/
structure Frame where
  /-- What the call declares. -/
  signature : Signature
  /-- The strategy that packs the arguments. -/
  encoder : Encoder
  /-- Whether every put is compared with the signature. -/
  validates : Bool
  /-- The packed bytes. -/
  bytes : List UInt8
  /-- The cursor, where the next argument is put. -/
  offset : Nat
  /-- The number of arguments put so far. -/
  index : Nat
  /-- The arguments passed by address, once there is one. -/
  payloads : Option PayloadTable
deriving DecidableEq, Repr

namespace Frame

/-! ## Empty frames -/

/-- The empty frame of a signature, packed by an encoder. -/
def withEncoder
    (signature : Signature)
    (encoder : Encoder)
    (settings : Settings) :
    Frame where
  signature := signature
  encoder := encoder
  validates := settings.validation
  bytes := List.replicate (encoder.bufferSize signature) 0
  offset := 0
  index := 0
  payloads := none

/-- The empty frame of a signature on a host, packed as the signature asks for. -/
def ofSignature (host : Host) (signature : Signature) : Frame :=
  withEncoder signature (.ofSignature host signature) host.settings

theorem ofSignature_eq_withEncoder (host : Host) (signature : Signature) :
    ofSignature host signature =
      withEncoder signature (.select signature.platform signature.isRaw)
        host.settings := by
  rw [ofSignature, Encoder.ofSignature_eq_select]

/-- The empty frame of a signature on a host with its table of payloads in place. -/
def withPayloads (host : Host) (signature : Signature) : Frame :=
  { ofSignature host signature with payloads := some .empty }

/-! ## Steps of a put -/

/-- Act on the bytes of a frame. -/
def onBytes
    {Result : Type}
    (action : Action (List UInt8) Result) :
    Action Frame Result :=
  Action.onPart Frame.bytes
    (fun changed frame => { frame with bytes := changed }) action

/-- Act on the table of payloads, which is made if there is none. -/
def onPayloads
    {Result : Type}
    (action : Action PayloadTable Result) :
    Action Frame Result :=
  Action.onPart (fun frame => frame.payloads.getD .empty)
    (fun changed frame => { frame with payloads := some changed }) action

/-- Move the cursor behind an argument and go on to the next parameter. -/
def moveTo (next : Nat) : Action Frame Unit :=
  modify fun frame => { frame with offset := next, index := frame.index + 1 }

/-- Check a put of a kind against the signature. -/
def check (supplied : SuppliedKind) : Action Frame Unit := do
  let frame ← get
  if frame.validates then
    match frame.signature.parameterType? frame.index with
    | none =>
      throw (.parameterCount frame.index frame.signature.parameterCount)
    | some type =>
      Action.require (supplied.accepts type)
        (.parameterMismatch frame.index type.kind supplied)

/-- Put a primitive at the cursor. -/
def putPrimitive (value : Primitive) : Action Frame Unit := do
  let frame ← get
  let next ← onBytes (frame.encoder.put frame.offset value)
  moveTo next

/-- Leave a zero address at the cursor and register a payload for it. -/
def putReference
    (payload : Payload)
    (offset length : Nat)
    (flags : ParameterFlags) :
    Action Frame Unit := do
  Action.require (payload.covers offset length) .outOfBounds
  let frame ← get
  let next ← onBytes (frame.encoder.put frame.offset (.address 0))
  onPayloads (PayloadTable.push
    { index := frame.index, payload, offset, length, flags })
  moveTo next

/-- Check that a placement and the bytes of its value fit the frame. -/
def reserve (placement : Placement) (length : Nat) : Action Frame Unit := do
  let frame ← get
  Action.require (placement.next ≤ frame.bytes.length) .outOfBounds
  Action.require (placement.start + length ≤ frame.bytes.length) .outOfBounds

/-- Copy bytes to a placement and move the cursor behind it. -/
def copyInline
    (placement : Placement)
    (source : List UInt8) :
    Action Frame Unit := do
  reserve placement source.length
  onBytes (modify fun bytes => overwrite bytes placement.start source)
  moveTo placement.next

/--
Put a `long double`.  A native frame holds its bytes; a slotted frame passes
them by address.
-/
def putLongDouble (source : LongDoubleSource) : Action Frame Unit := do
  let frame ← get
  let size := frame.encoder.layout.longDouble.size
  let encode := source.encode frame.encoder.layout.longDoubleFormat
    frame.encoder.byteOrder
  match frame.encoder.longDoublePlacement? frame.offset with
  | some placement =>
    reserve placement size
    onBytes (onWindow placement.start size encode)
    moveTo placement.next
  | none =>
    match encode (List.replicate size 0) with
    | .ok () bytes => putReference (.array (.scratch bytes)) 0 size .input
    | .error error _ => throw error

/-- The declared type of the next parameter, from which a struct has its size. -/
def structType : Action Frame NativeType := do
  let frame ← get
  match frame.signature.parameterType? frame.index with
  | some type => return type
  | none => throw (.undeclaredStruct frame.index)

/-- Where a struct lands, if the next parameter is one and is passed by value. -/
def structPlacement? (frame : Frame) (type : NativeType) : Option Placement :=
  if type.kind = .struct then
    frame.encoder.structPlacement? frame.offset type
  else
    none

/-- Put a struct from its bytes, which are copied or passed by address. -/
def putStruct (bytes : List UInt8) (offset : Nat) : Action Frame Unit := do
  let type ← structType
  let source ← MonadExcept.ofExcept (readAt bytes offset type.size)
  let frame ← get
  match frame.structPlacement? type with
  | some placement => copyInline placement source
  | none => putReference (.struct bytes) offset type.size .input

/-- The first bytes at an address, where memory goes on with zeros. -/
def readMemory (memory : List UInt8) (size : Nat) : List UInt8 :=
  memory.take size ++ List.replicate (size - memory.length) 0

/-- Put a struct from its address, which is copied from or passed on. -/
def putStructAt
    (address : UInt64)
    (memory : List UInt8) :
    Action Frame Unit := do
  let type ← structType
  let frame ← get
  match frame.structPlacement? type with
  | some placement =>
    if type.size = 0 then
      copyInline placement []
    else if address = 0 then
      throw (.nullStruct frame.index)
    else
      copyInline placement (readMemory memory type.size)
  | none => putPrimitive (.address address)

/-! ## Puts -/

/-- Put an argument that has passed the check against the signature. -/
def putUnchecked : Argument → Action Frame Unit
  | .primitive value => putPrimitive value
  | .longDouble source => putLongDouble source
  | .array data offset length flags =>
    putReference (.array data) offset length flags
  | .directBuffer bytes offset length =>
    putReference (.directBuffer bytes) offset length .pinned
  | .object type offset length flags =>
    putReference (.object type) offset length flags
  | .environment => putReference .environment 0 0 .empty
  | .handle object => putReference (.handle object) 0 0 .empty
  | .struct bytes offset => putStruct bytes offset
  | .structAt address memory => putStructAt address memory

/-- Put the argument for the next parameter. -/
def put (argument : Argument) : Action Frame Unit := do
  check argument.suppliedKind
  putUnchecked argument

/-- The frame that a put leaves behind, whether it fails or not. -/
def after (frame : Frame) (argument : Argument) : Frame :=
  (put argument).stateAfter frame

/-- The frame that puts in order leave behind. -/
def run (frame : Frame) (arguments : List Argument) : Frame :=
  arguments.foldl after frame

end Frame

end CallFrame
