import CallFrame.Proofs.Registration

/-!
# Zero addresses that are not written

A frame starts out as zeros, and an encoder does not write a zero address: it
only checks that there is room for it.  This module shows that nobody can tell.

The puts of a frame are taken over the way in which primitives are put.  With
the way of the encoders they are the puts of the frame, and with a way that
writes every primitive, zero addresses as well, they are the puts of a frame
that saves nothing.  Two ways that agree at the cursor of a frame lead to the
same outcome of every put, and the two ways agree wherever the bytes behind the
cursor are blank, which they are along every run.
-/

namespace CallFrame

/-- A way in which encoders put a primitive at an offset of a buffer. -/
abbrev PrimitivePut : Type :=
  Encoder → Nat → Primitive → Action (List UInt8) Nat

namespace Encoder

/-- Put a primitive at the cursor and write it even if it is a zero address. -/
def putWritten
    (encoder : Encoder)
    (offset : Nat)
    (primitive : Primitive) :
    Action (List UInt8) Nat := do
  let type := encoder.layout.ofPrimitive primitive
  let start := encoder.align offset type.alignment
  encoder.writer.put start primitive
  return encoder.advance start type.size

end Encoder

namespace Frame

/-! ## Puts over a way of putting primitives -/

section Puts

variable (way : PrimitivePut)

/-- Put a primitive at the cursor. -/
def putPrimitiveBy (value : Primitive) : Action Frame Unit := do
  let frame ← get
  let next ← onBytes (way frame.encoder frame.offset value)
  moveTo next

/-- Put a zero address at the cursor and register a payload for it. -/
def putReferenceBy
    (payload : Payload)
    (offset length : Nat)
    (flags : ParameterFlags) :
    Action Frame Unit := do
  Action.require (payload.covers offset length) .outOfBounds
  let frame ← get
  let next ← onBytes (way frame.encoder frame.offset (.address 0))
  onPayloads (PayloadTable.push
    { index := frame.index, payload, offset, length, flags })
  moveTo next

/-- Put a `long double`, inline or by its address. -/
def putLongDoubleBy (source : LongDoubleSource) : Action Frame Unit := do
  let frame ← get
  let size := frame.encoder.layout.longDouble.size
  let encode := source.encode frame.encoder.layout.longDoubleFormat
    frame.encoder.byteOrder
  match frame.encoder.longDoublePlacement? frame.offset with
  | some placement =>
    reserve placement size
    onBytes (onWindow placement.start size encode)
    moveTo placement.next
  | none =>
    match encode (List.replicate size 0) with
    | .ok () bytes =>
      putReferenceBy way (.array (.scratch bytes)) 0 size .input
    | .error error _ => throw error

/-- Put a struct from its bytes, inline or by its address. -/
def putStructBy (bytes : List UInt8) (offset : Nat) : Action Frame Unit := do
  let type ← structType
  let source ← MonadExcept.ofExcept (readAt bytes offset type.size)
  let frame ← get
  match frame.structPlacement? type with
  | some placement => copyInline placement source
  | none => putReferenceBy way (.struct bytes) offset type.size .input

/-- Put a struct from its address, which is copied from or passed on. -/
def putStructAtBy
    (address : UInt64)
    (memory : List UInt8) :
    Action Frame Unit := do
  let type ← structType
  let frame ← get
  match frame.structPlacement? type with
  | some placement =>
    if type.size = 0 then
      copyInline placement []
    else if address = 0 then
      throw (.nullStruct frame.index)
    else
      copyInline placement (readMemory memory type.size)
  | none => putPrimitiveBy way (.address address)

/-- Put an argument that has passed the check against the signature. -/
def putUncheckedBy : Argument → Action Frame Unit
  | .primitive value => putPrimitiveBy way value
  | .longDouble source => putLongDoubleBy way source
  | .array data offset length flags =>
    putReferenceBy way (.array data) offset length flags
  | .directBuffer bytes offset length =>
    putReferenceBy way (.directBuffer bytes) offset length .pinned
  | .object type offset length flags =>
    putReferenceBy way (.object type) offset length flags
  | .environment => putReferenceBy way .environment 0 0 .empty
  | .handle object => putReferenceBy way (.handle object) 0 0 .empty
  | .struct bytes offset => putStructBy way bytes offset
  | .structAt address memory => putStructAtBy way address memory

/-- Put the argument for the next parameter. -/
def putBy (argument : Argument) : Action Frame Unit := do
  check argument.suppliedKind
  putUncheckedBy way argument

/-- The frame that puts in order leave behind. -/
def runBy (frame : Frame) (arguments : List Argument) : Frame :=
  arguments.foldl
    (fun current argument => (putBy way argument).stateAfter current) frame

theorem runBy_cons
    (frame : Frame)
    (argument : Argument)
    (rest : List Argument) :
    frame.runBy way (argument :: rest) =
      ((putBy way argument).stateAfter frame).runBy way rest := rfl

end Puts

/-- With the way of the encoders, these are the puts of a frame. -/
theorem putBy_put (argument : Argument) :
    putBy Encoder.put argument = put argument := by
  cases argument <;> rfl

/-! ## Ways that agree -/

/-- Two ways have the same outcome at the cursor of a frame. -/
def Agree (left right : PrimitivePut) (frame : Frame) : Prop :=
  ∀ value,
    left frame.encoder frame.offset value frame.bytes =
      right frame.encoder frame.offset value frame.bytes

theorem onBytes_bind_congr
    {Result Final : Type}
    {left right : Action (List UInt8) Result}
    {frame : Frame}
    (agree : left frame.bytes = right frame.bytes)
    (next : Result → Action Frame Final) :
    (onBytes left >>= next) frame = (onBytes right >>= next) frame := by
  have same : onBytes left frame = onBytes right frame := by
    rw [onBytes, onBytes, Action.onPart, Action.onPart, agree]
  cases outcome : onBytes right frame with
  | ok result changed =>
      rw [outcome] at same
      rw [Action.bind_of_ok same, Action.bind_of_ok outcome]
  | error cause changed =>
      rw [outcome] at same
      rw [Action.bind_of_error same, Action.bind_of_error outcome]

section Congruence

variable {left right : PrimitivePut} {frame : Frame}

theorem putPrimitiveBy_congr
    (agree : Agree left right frame)
    (value : Primitive) :
    putPrimitiveBy left value frame = putPrimitiveBy right value frame := by
  rw [putPrimitiveBy, putPrimitiveBy, Action.get_bind, Action.get_bind]
  exact onBytes_bind_congr (agree value) _

theorem putReferenceBy_congr
    (agree : Agree left right frame)
    (payload : Payload)
    (offset length : Nat)
    (flags : ParameterFlags) :
    putReferenceBy left payload offset length flags frame =
      putReferenceBy right payload offset length flags frame := by
  rw [putReferenceBy, putReferenceBy, Action.require_bind,
    Action.require_bind]
  by_cases covered : payload.covers offset length = true
  · rw [if_pos covered, if_pos covered, Action.get_bind, Action.get_bind]
    exact onBytes_bind_congr (agree _) _
  · rw [if_neg covered, if_neg covered]

theorem putLongDoubleBy_congr
    (agree : Agree left right frame)
    (source : LongDoubleSource) :
    putLongDoubleBy left source frame = putLongDoubleBy right source frame := by
  rw [putLongDoubleBy, putLongDoubleBy, Action.get_bind, Action.get_bind]
  cases frame.encoder.longDoublePlacement? frame.offset with
  | some placement => rfl
  | none =>
      dsimp only
      cases source.encode frame.encoder.layout.longDoubleFormat
          frame.encoder.byteOrder
          (List.replicate frame.encoder.layout.longDouble.size 0) with
      | ok result bytes => exact putReferenceBy_congr agree _ _ _ _
      | error cause bytes => rfl

theorem putStructBy_congr
    (agree : Agree left right frame)
    (bytes : List UInt8)
    (offset : Nat) :
    putStructBy left bytes offset frame =
      putStructBy right bytes offset frame := by
  rw [putStructBy, putStructBy, structType_bind, structType_bind]
  cases frame.signature.parameterType? frame.index with
  | none => rfl
  | some type =>
      dsimp only
      rw [Action.ofExcept_bind, Action.ofExcept_bind]
      cases readAt bytes offset type.size with
      | error cause => rfl
      | ok source =>
          dsimp only
          rw [Action.get_bind, Action.get_bind]
          cases frame.structPlacement? type with
          | some placement => rfl
          | none => exact putReferenceBy_congr agree _ _ _ _

theorem putStructAtBy_congr
    (agree : Agree left right frame)
    (address : UInt64)
    (memory : List UInt8) :
    putStructAtBy left address memory frame =
      putStructAtBy right address memory frame := by
  rw [putStructAtBy, putStructAtBy, structType_bind, structType_bind]
  cases frame.signature.parameterType? frame.index with
  | none => rfl
  | some type =>
      dsimp only
      rw [Action.get_bind, Action.get_bind]
      cases frame.structPlacement? type with
      | some placement => rfl
      | none => exact putPrimitiveBy_congr agree _

theorem putUncheckedBy_congr
    (agree : Agree left right frame)
    (argument : Argument) :
    putUncheckedBy left argument frame =
      putUncheckedBy right argument frame := by
  cases argument with
  | primitive value => exact putPrimitiveBy_congr agree value
  | longDouble source => exact putLongDoubleBy_congr agree source
  | array data offset length flags => exact putReferenceBy_congr agree _ _ _ _
  | directBuffer bytes offset length =>
      exact putReferenceBy_congr agree _ _ _ _
  | object type offset length flags =>
      exact putReferenceBy_congr agree _ _ _ _
  | environment => exact putReferenceBy_congr agree _ _ _ _
  | handle object => exact putReferenceBy_congr agree _ _ _ _
  | struct bytes offset => exact putStructBy_congr agree bytes offset
  | structAt address memory => exact putStructAtBy_congr agree address memory

/-- Ways that agree at a cursor lead to the same outcome of every put there. -/
theorem putBy_congr
    (agree : Agree left right frame)
    (argument : Argument) :
    putBy left argument frame = putBy right argument frame := by
  rw [putBy, putBy, (check_settles argument.suppliedKind).bind,
    (check_settles argument.suppliedKind).bind]
  cases frame.refusal? argument.suppliedKind with
  | some error => rfl
  | none => exact putUncheckedBy_congr agree argument

end Congruence

end Frame

/-! ## Writing zeros over zeros -/

namespace Encoder

section Written

variable
  {encoder : Encoder}
  {offset : Nat}
  {primitive : Primitive}
  {buffer : List UInt8}

theorem putWritten_of_fits
    (fits : encoder.primitiveEnd offset primitive ≤ buffer.length) :
    encoder.putWritten offset primitive buffer =
      .ok (encoder.primitiveNext offset primitive)
        (overwrite buffer (encoder.primitiveStart offset primitive)
          (encoder.writer.encode primitive)) := by
  rw [primitiveEnd, ← Writer.length_encode] at fits
  rw [putWritten]
  exact Action.bind_of_ok (writeAt_of_fits fits)

theorem putWritten_of_not_fits
    (outside : ¬ encoder.primitiveEnd offset primitive ≤ buffer.length) :
    encoder.putWritten offset primitive buffer =
      .error .outOfBounds buffer := by
  rw [primitiveEnd, ← Writer.length_encode] at outside
  rw [putWritten]
  exact Action.bind_of_error (writeAt_of_not_fits outside)

/-- Behind blank bytes a zero address is there before it is written. -/
theorem overwrite_encode_eq_stored
    (fits : encoder.primitiveEnd offset primitive ≤ buffer.length)
    (blank :
      ∀ index, offset ≤ index → index < buffer.length →
        buffer[index]? = some 0) :
    overwrite buffer (encoder.primitiveStart offset primitive)
        (encoder.writer.encode primitive) =
      overwrite buffer (encoder.primitiveStart offset primitive)
        (encoder.stored primitive) := by
  by_cases zero : primitive = .address 0
  · subst zero
    have zeros :
        window buffer (encoder.primitiveStart offset (.address 0))
            (encoder.writer.encode (.address 0)).length =
          encoder.writer.encode (.address 0) := by
      rw [encoder.writer.encode_zero, List.length_replicate]
      apply window_eq_replicate
      intro index lt
      rw [Writer.length_encode] at lt
      apply blank
      · exact Nat.le_add_right_of_le (encoder.le_align _ _)
      · exact Nat.lt_of_lt_of_le (Nat.add_lt_add_left lt _) fits
    rw [stored, if_pos rfl, overwrite_nil]
    calc overwrite buffer (encoder.primitiveStart offset (.address 0))
          (encoder.writer.encode (.address 0))
        = overwrite buffer (encoder.primitiveStart offset (.address 0))
            (window buffer (encoder.primitiveStart offset (.address 0))
              (encoder.writer.encode (.address 0)).length) := by rw [zeros]
      _ = buffer := overwrite_window buffer _ _
  · rw [stored, if_neg zero]

/-- On blank bytes it makes no difference whether a zero address is written. -/
theorem putWritten_eq_put
    (blank :
      ∀ index, offset ≤ index → index < buffer.length →
        buffer[index]? = some 0) :
    encoder.putWritten offset primitive buffer =
      encoder.put offset primitive buffer := by
  by_cases fits : encoder.primitiveEnd offset primitive ≤ buffer.length
  · rw [putWritten_of_fits fits, put_of_fits fits,
      overwrite_encode_eq_stored fits blank]
  · rw [putWritten_of_not_fits fits, put_of_not_fits fits]

end Written

/-- On other bytes it does make a difference. -/
example :
    let encoder := select (.ofFamily .x86_64 .linux) false
    encoder.putWritten 0 (.address 0) (List.replicate 8 0xaa) =
        .ok 8 (List.replicate 8 0) ∧
      encoder.put 0 (.address 0) (List.replicate 8 0xaa) =
        .ok 8 (List.replicate 8 0xaa) :=
  ⟨rfl, rfl⟩

end Encoder

namespace Frame

/-! ## Along a run -/

section Run

variable {frame : Frame}

/-- On a frame that is blank behind its cursor both ways have one outcome. -/
theorem BlankTail.putBy_putWritten
    (blank : frame.BlankTail)
    (argument : Argument) :
    putBy Encoder.putWritten argument frame = put argument frame := by
  rw [← putBy_put]
  exact putBy_congr (fun value => Encoder.putWritten_eq_put blank) argument

/-- A put changes nothing but the bytes between its cursors. -/
theorem getElem?_after_of_outside
    (spacious : frame.encoder.Spacious)
    (argument : Argument)
    {index : Nat}
    (outside :
      index < frame.offset ∨ (frame.after argument).offset ≤ index) :
    (frame.after argument).bytes[index]? = frame.bytes[index]? := by
  cases outcome : put argument frame with
  | error cause failed => rw [after_of_error outcome]
  | ok result next =>
      obtain ⟨effect, planned, rfl⟩ := put_eq_ok_iff.mp outcome
      obtain ⟨behind, ends⟩ := staysBetween_of_plan spacious planned
      rw [after_of_ok outcome] at outside ⊢
      apply getElem?_overwrite_of_outside
        (fitting_plan argument frame effect planned)
      rcases outside with front | back
      · exact Or.inl (Nat.lt_of_lt_of_le front behind)
      · exact Or.inr (Nat.le_trans ends back)

/-- A run that writes its zero addresses ends in the same frame. -/
theorem BlankTail.runBy_putWritten
    (spacious : frame.encoder.Spacious)
    (blank : frame.BlankTail)
    (arguments : List Argument) :
    frame.runBy Encoder.putWritten arguments = frame.run arguments := by
  induction arguments generalizing frame with
  | nil => rfl
  | cons argument rest induction =>
      have first :
          (putBy Encoder.putWritten argument).stateAfter frame =
            frame.after argument := by
        rw [after, Action.stateAfter, Action.stateAfter,
          blank.putBy_putWritten]
      have next : frame.Extends (frame.after argument) :=
        extends_run spacious [argument]
      rw [run_cons, runBy_cons, first]
      exact induction (next.encoder_eq ▸ spacious)
        (blank.run spacious [argument])

end Run

/--
On every frame that a run can reach, the bytes behind the cursor are zero, and a
put changes no bytes but those between the cursor that it finds and the one that
it leaves.  Hence nothing shows that zero addresses are not written: if they are,
every run leads to the same frame, and on it every put has the same outcome, the
frame or the error that it ends with.
-/
theorem zero_addresses_written_or_not
    (signature : Signature)
    (platform : Platform)
    (rawPacking : Bool)
    (settings : Settings)
    (presized : Bool)
    (arguments : List Argument) :
    let encoder := Encoder.select platform rawPacking
    let start := opened signature encoder settings presized
    let frame := start.run arguments
    (∀ index, frame.offset ≤ index → index < frame.bytes.length →
        frame.bytes[index]? = some 0) ∧
      (∀ argument,
        let next := frame.after argument
        frame.offset ≤ next.offset ∧
          next.bytes.length = frame.bytes.length ∧
          ∀ index, index < frame.offset ∨ next.offset ≤ index →
            next.bytes[index]? = frame.bytes[index]?) ∧
      start.runBy Encoder.putWritten arguments = frame ∧
      ∀ argument,
        putBy Encoder.putWritten argument frame = put argument frame := by
  intro encoder start frame
  have selected : start.encoder.Spacious :=
    Encoder.spacious_select platform rawPacking
  have spacious : frame.encoder.Spacious :=
    (extends_run selected arguments).encoder_eq ▸ selected
  have empty : start.BlankTail :=
    blankTail_withEncoder signature encoder settings
  have blank : frame.BlankTail := empty.run selected arguments
  refine ⟨blank, ?_, empty.runBy_putWritten selected arguments,
    blank.putBy_putWritten⟩
  intro argument next
  have goesOn : frame.Extends next := extends_run spacious [argument]
  exact ⟨goesOn.offset_le, goesOn.length_eq,
    fun index outside => getElem?_after_of_outside spacious argument outside⟩

end Frame

end CallFrame
