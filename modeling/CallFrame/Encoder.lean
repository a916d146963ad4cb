import CallFrame.Host
import CallFrame.NativeType
import CallFrame.Writer

/-!
# Packing strategies

An encoder decides where each argument of a call lands in the frame.  There
are three strategies.

* Slotted: every argument takes one slot of eight bytes, whatever it is, and
  what does not fit a slot is passed by address.
* Aligned: the native layout, where an argument starts at a multiple of its
  alignment and of the slot width, and takes its own size.
* Stacked: the native layout of 32-bit x86, where an argument starts at the
  cursor and takes at least four bytes.

A put takes the cursor and returns the cursor behind the value.  Frames start
out as zeros, so a zero address is not written; that it fits is still checked.

The size of a native frame is found by walking over the parameter types with
the same rules that the puts follow.
-/

namespace CallFrame

/-- Where a value of several bytes lands in a native frame. -/
structure Placement where
  /-- The first byte of the value. -/
  start : Nat
  /-- The cursor behind the value and its padding. -/
  next : Nat
deriving DecidableEq, Repr

/-- A packing strategy with what it needs to know about the platform. -/
inductive Encoder where
  /-- One slot of eight bytes for each argument. -/
  | slotted (writer : Writer) (layout : PrimitiveLayout)
  /-- The native layout. -/
  | aligned (writer : Writer) (layout : PrimitiveLayout)
  /-- The native layout of 32-bit x86. -/
  | stacked (layout : PrimitiveLayout)
deriving DecidableEq, Repr

namespace PrimitiveLayout

/-- The layout of the type that a primitive argument has. -/
def ofPrimitive (layout : PrimitiveLayout) : Primitive → TypeLayout
  | .byte _ => layout.sint8
  | .short _ => layout.sint16
  | .int _ => layout.sint32
  | .long _ => layout.sint64
  | .float _ => layout.float
  | .double _ => layout.double
  | .address _ => layout.pointer

end PrimitiveLayout

namespace Encoder

/-- The width of a slot in a slotted frame. -/
def fixedSlot : Nat :=
  8

/-- The width of a slot on the stack of 32-bit x86. -/
def stackSlot : Nat :=
  4

/--
The encoder for a platform, with or without the native layout.  On 32-bit x86
the native layout is the stack whatever the operating system, which still
decides about `long double`.
-/
def select (platform : Platform) (rawPacking : Bool) : Encoder :=
  if rawPacking then
    if platform.cpu = .i386 then .stacked platform.layout
    else .aligned (.ofPlatform platform) platform.layout
  else
    .slotted (.ofPlatform platform) platform.layout

theorem select_of_stack
    {platform : Platform}
    (stack : platform.cpu = .i386) :
    select platform true = .stacked platform.layout := by
  rw [select, if_pos rfl, if_pos stack]

theorem select_of_not_stack
    {platform : Platform}
    (notStack : platform.cpu ≠ .i386) :
    select platform true =
      .aligned (.ofPlatform platform) platform.layout := by
  rw [select, if_pos rfl, if_neg notStack]

/-- The encoder for the platform and the settings of a host. -/
def native (host : Host) : Encoder :=
  select host.platform host.settings.rawPacking

/-- The name under which a strategy is reported. -/
def name : Encoder → String
  | slotted _ _ => "default"
  | aligned _ _ => "raw"
  | stacked _ => "raw-i386"

/-- Whether an encoder packs to the native layout. -/
def isRaw : Encoder → Bool
  | slotted _ _ => false
  | aligned _ _ => true
  | stacked _ => true

theorem isRaw_select (platform : Platform) (rawPacking : Bool) :
    (select platform rawPacking).isRaw = rawPacking := by
  cases rawPacking with
  | false => rfl
  | true =>
    by_cases stack : platform.cpu = .i386
    · rw [select_of_stack stack, isRaw]
    · rw [select_of_not_stack stack, isRaw]

/-- The layout of primitives that an encoder packs with. -/
def layout : Encoder → PrimitiveLayout
  | slotted _ layout => layout
  | aligned _ layout => layout
  | stacked layout => layout

/-- The writer of primitives that an encoder packs with. -/
def writer : Encoder → Writer
  | slotted writer _ => writer
  | aligned writer _ => writer
  | stacked _ => .le32

/-- The byte order of the values in the frame. -/
def byteOrder (encoder : Encoder) : ByteOrder :=
  encoder.writer.byteOrder

/-- The width of one argument slot. -/
def slotSize : Encoder → Nat
  | slotted _ _ => fixedSlot
  | aligned _ layout => layout.slotSize
  | stacked _ => stackSlot

/-- Where a value of an alignment starts when the cursor is at an offset. -/
def align (encoder : Encoder) (offset alignment : Nat) : Nat :=
  match encoder with
  | slotted _ _ => offset
  | aligned _ layout => alignUp offset (max alignment layout.slotSize)
  | stacked _ => offset

/-- The cursor behind a primitive of a size. -/
def advance (encoder : Encoder) (start size : Nat) : Nat :=
  match encoder with
  | slotted _ _ => start + fixedSlot
  | aligned _ _ => start + size
  | stacked _ => start + max size stackSlot

/-- Write a primitive at an offset, unless it is the zero address. -/
def writePrimitive
    (encoder : Encoder)
    (start : Nat)
    (primitive : Primitive) :
    Action (List UInt8) Unit := do
  if primitive = .address 0 then
    let buffer ← get
    Action.require (start + encoder.writer.addressBytes ≤ buffer.length)
      .outOfBounds
  else
    encoder.writer.put start primitive

/-- Put a primitive at the cursor and return the cursor behind it. -/
def put
    (encoder : Encoder)
    (offset : Nat)
    (primitive : Primitive) :
    Action (List UInt8) Nat := do
  let type := encoder.layout.ofPrimitive primitive
  let start := encoder.align offset type.alignment
  encoder.writePrimitive start primitive
  return encoder.advance start type.size

/-- Where a `long double` lands, unless it is passed by address. -/
def longDoublePlacement?
    (encoder : Encoder)
    (offset : Nat) :
    Option Placement :=
  if encoder.isRaw then
    let type := encoder.layout.longDouble
    let start := encoder.align offset type.alignment
    some ⟨start, start + alignUp type.size encoder.slotSize⟩
  else
    none

/-- Where a struct lands, unless it is passed by address. -/
def structPlacement?
    (encoder : Encoder)
    (offset : Nat)
    (type : NativeType) :
    Option Placement :=
  if encoder.isRaw then
    let start := encoder.align offset type.alignment
    some ⟨start, alignUp (start + type.size) encoder.slotSize⟩
  else
    none

/-- The cursor behind a parameter of a type. -/
def offsetAfter
    (encoder : Encoder)
    (offset : Nat)
    (type : NativeType) :
    Nat :=
  let start := encoder.align offset type.alignment
  if type.kind = .struct ∨ type.kind = .longDouble then
    start + alignUp type.size encoder.slotSize
  else
    encoder.advance start type.size

/-- The size of the frame that holds parameters of the given types. -/
def frameSize (encoder : Encoder) (parameters : List NativeType) : Nat :=
  alignUp (parameters.foldl encoder.offsetAfter 0) encoder.slotSize

end Encoder

/-- The size of the native frame for parameters on a platform. -/
def rawParameterSize
    (parameters : List NativeType)
    (platform : Platform) :
    Nat :=
  (Encoder.select platform true).frameSize parameters

end CallFrame
