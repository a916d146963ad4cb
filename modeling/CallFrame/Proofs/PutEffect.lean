import CallFrame.Frame
import CallFrame.Proofs.LongDoubleImage

/-!
# The effect of a put

A put is made of steps, several of which can fail after others have been done.
This module tells each put in one go.  From the frame and the argument alone it
follows either an effect, which says what is written where, how far the cursor
moves and what is registered, or the error of the put.

The effect is computed by `Frame.plan`, one clause for each of the ways in which
arguments are passed, and `put_follows` says that a put applies the planned
effect or fails with the planned error and changes nothing.  What puts do to a
frame, in one step or in a run of them, is derived from that law; the steps of
a put are not looked at again.

A zero address is planned without any bytes, since it is not written.
-/

namespace CallFrame

/-- What a put that succeeds does to a frame. -/
structure Effect where
  /-- The first byte that is written. -/
  start : Nat
  /-- The bytes that are written. -/
  image : List UInt8
  /-- The cursor behind the argument. -/
  next : Nat
  /-- What is registered, if the argument is passed by address. -/
  registration? : Option Entry

namespace Effect

/-- Register an entry, if there is one, in a table that is made for it. -/
def register
    (payloads : Option PayloadTable) :
    Option Entry → Option PayloadTable
  | none => payloads
  | some entry => some ⟨(payloads.getD .empty).entries ++ [entry]⟩

/-- The frame after an effect. -/
def apply (effect : Effect) (frame : Frame) : Frame :=
  { frame with
    bytes := overwrite frame.bytes effect.start effect.image
    offset := effect.next
    index := frame.index + 1
    payloads := register frame.payloads effect.registration? }

end Effect

/-! ## Primitives -/

namespace Encoder

/-- Where a primitive starts that is put at an offset. -/
def primitiveStart
    (encoder : Encoder)
    (offset : Nat)
    (primitive : Primitive) :
    Nat :=
  encoder.align offset (encoder.layout.ofPrimitive primitive).alignment

/-- The cursor behind a primitive that is put at an offset. -/
def primitiveNext
    (encoder : Encoder)
    (offset : Nat)
    (primitive : Primitive) :
    Nat :=
  encoder.advance (encoder.primitiveStart offset primitive)
    (encoder.layout.ofPrimitive primitive).size

/-- The end of the bytes of a primitive that is put at an offset. -/
def primitiveEnd
    (encoder : Encoder)
    (offset : Nat)
    (primitive : Primitive) :
    Nat :=
  encoder.primitiveStart offset primitive +
    primitive.width encoder.writer.addressWidth

/-- The bytes that are written for a primitive. -/
def stored (encoder : Encoder) (primitive : Primitive) : List UInt8 :=
  if primitive = .address 0 then [] else encoder.writer.encode primitive

theorem put_of_fits
    {encoder : Encoder}
    {offset : Nat}
    {primitive : Primitive}
    {buffer : List UInt8}
    (fits : encoder.primitiveEnd offset primitive ≤ buffer.length) :
    encoder.put offset primitive buffer =
      .ok (encoder.primitiveNext offset primitive)
        (overwrite buffer (encoder.primitiveStart offset primitive)
          (encoder.stored primitive)) := by
  have written :
      encoder.writePrimitive (encoder.primitiveStart offset primitive)
          primitive buffer =
        .ok () (overwrite buffer (encoder.primitiveStart offset primitive)
          (encoder.stored primitive)) := by
    rw [writePrimitive, stored]
    by_cases zero : primitive = .address 0
    · subst zero
      rw [if_pos rfl, if_pos rfl, overwrite_nil, Action.get_bind]
      exact Action.require_of fits _ buffer
    · rw [if_neg zero, if_neg zero]
      apply writeAt_of_fits
      rw [Writer.length_encode]
      exact fits
  rw [put]
  exact Action.bind_of_ok written

theorem put_of_not_fits
    {encoder : Encoder}
    {offset : Nat}
    {primitive : Primitive}
    {buffer : List UInt8}
    (outside : ¬ encoder.primitiveEnd offset primitive ≤ buffer.length) :
    encoder.put offset primitive buffer = .error .outOfBounds buffer := by
  have refused :
      encoder.writePrimitive (encoder.primitiveStart offset primitive)
          primitive buffer =
        .error .outOfBounds buffer := by
    rw [writePrimitive]
    by_cases zero : primitive = .address 0
    · subst zero
      rw [if_pos rfl, Action.get_bind]
      exact Action.require_of_not outside _ buffer
    · rw [if_neg zero]
      apply writeAt_of_not_fits
      rw [Writer.length_encode]
      exact outside
  rw [put]
  exact Action.bind_of_error refused

end Encoder

namespace Frame

/-- An action does the planned effect, or fails as planned and does nothing. -/
def Follows
    (action : Action Frame Unit)
    (plan : Frame → Except Error Effect) :
    Prop :=
  Action.Settles action fun frame =>
    (plan frame).map fun effect => effect.apply frame

/-- The effect of putting a primitive. -/
def planPrimitive (value : Primitive) (frame : Frame) : Except Error Effect :=
  if frame.encoder.primitiveEnd frame.offset value ≤ frame.bytes.length then
    .ok {
      start := frame.encoder.primitiveStart frame.offset value
      image := frame.encoder.stored value
      next := frame.encoder.primitiveNext frame.offset value
      registration? := none }
  else
    .error .outOfBounds

theorem onBytes_of_ok
    {Result : Type}
    {action : Action (List UInt8) Result}
    {frame : Frame}
    {bytes : List UInt8}
    {result : Result}
    (done : action frame.bytes = .ok result bytes) :
    onBytes action frame = .ok result { frame with bytes := bytes } := by
  unfold onBytes
  exact Action.onPart_of_ok done

theorem onBytes_of_error
    {Result : Type}
    {action : Action (List UInt8) Result}
    {frame : Frame}
    {error : Error}
    (failed : action frame.bytes = .error error frame.bytes) :
    onBytes action frame = .error error frame := by
  unfold onBytes
  exact Action.onPart_of_error failed

theorem putPrimitive_follows (value : Primitive) :
    Follows (putPrimitive value) (planPrimitive value) := by
  intro frame
  dsimp only
  rw [putPrimitive, Action.get_bind, planPrimitive]
  by_cases fits :
      frame.encoder.primitiveEnd frame.offset value ≤ frame.bytes.length
  · have done := onBytes_of_ok (Encoder.put_of_fits fits)
    rw [if_pos fits, Action.bind_of_ok done]
    rfl
  · have failed := onBytes_of_error (Encoder.put_of_not_fits fits)
    rw [if_neg fits, Action.bind_of_error failed]
    rfl

/-! ## Arguments passed by address -/

/-- The effect of leaving a zero address and registering a payload for it. -/
def planReference
    (payload : Payload)
    (offset length : Nat)
    (flags : ParameterFlags)
    (frame : Frame) :
    Except Error Effect :=
  if payload.covers offset length then
    (frame.planPrimitive (.address 0)).map fun effect =>
      { effect with
        registration? := some
          { index := frame.index, payload, offset, length, flags } }
  else
    .error .outOfBounds

/-- An entry whose window is inside its source is registered. -/
theorem onPayloads_push_of_covers
    (frame : Frame)
    (entry : Entry)
    (covered : entry.payload.covers entry.offset entry.length = true) :
    onPayloads (PayloadTable.push entry) frame =
      .ok () { frame with
        payloads := Effect.register frame.payloads (some entry) } := by
  have pushed :
      PayloadTable.push entry (frame.payloads.getD .empty) =
        .ok () ⟨(frame.payloads.getD .empty).entries ++ [entry]⟩ := by
    rw [PayloadTable.push, Action.require_bind, if_pos covered]
    rfl
  unfold onPayloads
  exact Action.onPart_of_ok pushed

theorem putReference_follows
    (payload : Payload)
    (offset length : Nat)
    (flags : ParameterFlags) :
    Follows (putReference payload offset length flags)
      (planReference payload offset length flags) := by
  intro frame
  dsimp only
  rw [putReference, Action.require_bind, planReference]
  by_cases covered : payload.covers offset length = true
  · rw [if_pos covered, if_pos covered, Action.get_bind, planPrimitive]
    by_cases fits :
        frame.encoder.primitiveEnd frame.offset (.address 0) ≤
          frame.bytes.length
    · have done := onBytes_of_ok (Encoder.put_of_fits fits)
      rw [if_pos fits, Action.bind_of_ok done,
        Action.bind_of_ok (onPayloads_push_of_covers _ _ covered)]
      rfl
    · have failed := onBytes_of_error (Encoder.put_of_not_fits fits)
      rw [if_neg fits, Action.bind_of_error failed]
      rfl
  · rw [if_neg covered, if_neg covered]
    rfl

/-! ## Arguments that are copied -/

/-- The effect of copying bytes to a placement. -/
def planInline
    (placement : Placement)
    (source : List UInt8)
    (frame : Frame) :
    Except Error Effect :=
  if placement.next ≤ frame.bytes.length ∧
      placement.start + source.length ≤ frame.bytes.length then
    .ok ⟨placement.start, source, placement.next, none⟩
  else
    .error .outOfBounds

theorem reserve_settles (placement : Placement) (length : Nat) :
    Action.Settles (reserve placement length) fun frame =>
      if placement.next ≤ frame.bytes.length ∧
          placement.start + length ≤ frame.bytes.length then
        .ok frame
      else
        .error .outOfBounds := by
  intro frame
  dsimp only
  rw [reserve, Action.get_bind, Action.require_bind]
  by_cases next : placement.next ≤ frame.bytes.length
  · by_cases last : placement.start + length ≤ frame.bytes.length
    · rw [if_pos next, if_pos ⟨next, last⟩, Action.require_of last]
      rfl
    · rw [if_pos next, if_neg fun both => last both.2,
        Action.require_of_not last]
      rfl
  · rw [if_neg next, if_neg fun both => next both.1]
    rfl

theorem copyInline_follows (placement : Placement) (source : List UInt8) :
    Follows (copyInline placement source) (planInline placement source) := by
  intro frame
  dsimp only
  rw [copyInline, (reserve_settles placement source.length).bind, planInline]
  by_cases room :
      placement.next ≤ frame.bytes.length ∧
        placement.start + source.length ≤ frame.bytes.length
  · rw [if_pos room, if_pos room]
    rfl
  · rw [if_neg room, if_neg room]
    rfl

/-! ## Long doubles -/

/-- The effect of putting a `long double`. -/
def planLongDouble
    (source : LongDoubleSource)
    (frame : Frame) :
    Except Error Effect :=
  let size := frame.encoder.layout.longDouble.size
  let image := source.image frame.encoder.layout.longDoubleFormat
    frame.encoder.byteOrder size
  match frame.encoder.longDoublePlacement? frame.offset with
  | some placement =>
    if placement.next ≤ frame.bytes.length ∧
        placement.start + size ≤ frame.bytes.length then
      image.map fun bytes => ⟨placement.start, bytes, placement.next, none⟩
    else
      .error .outOfBounds
  | none =>
    match image with
    | .ok bytes =>
      frame.planReference (.array (.scratch bytes)) 0 size .input
    | .error error => .error error

/-- Encoding to a window of a frame replaces the window by the image. -/
theorem onBytes_onWindow_encode_settles
    (source : LongDoubleSource)
    (format : LongDoubleFormat)
    (order : ByteOrder)
    (start size : Nat) :
    Action.Settles
      (onBytes (onWindow start size (source.encode format order)))
      fun frame =>
        ((source.image format order
            (window frame.bytes start size).length).map
          (overwrite frame.bytes start ·)).map
          fun bytes => { frame with bytes := bytes } := by
  unfold onBytes onWindow
  exact
    ((source.encode_settles format order).onPart
      fun buffer => overwrite_window buffer start size).onPart
      fun _ => rfl

theorem putLongDouble_follows (source : LongDoubleSource) :
    Follows (putLongDouble source) (planLongDouble source) := by
  intro frame
  dsimp only
  rw [putLongDouble, Action.get_bind, planLongDouble]
  cases placed : frame.encoder.longDoublePlacement? frame.offset with
  | some placement =>
      dsimp only
      rw [(reserve_settles placement _).bind]
      by_cases room :
          placement.next ≤ frame.bytes.length ∧
            placement.start + frame.encoder.layout.longDouble.size ≤
              frame.bytes.length
      · rw [if_pos room, if_pos room]
        dsimp only
        rw [(onBytes_onWindow_encode_settles source _ _ _ _).bind,
          length_window room.2]
        cases made : source.image frame.encoder.layout.longDoubleFormat
            frame.encoder.byteOrder frame.encoder.layout.longDouble.size with
        | ok bytes => rfl
        | error cause => rfl
      · rw [if_neg room, if_neg room]
        rfl
  | none =>
      have encoded :=
        source.encode_settles frame.encoder.layout.longDoubleFormat
          frame.encoder.byteOrder
          (List.replicate frame.encoder.layout.longDouble.size 0)
      dsimp only at encoded ⊢
      rw [List.length_replicate] at encoded
      rw [encoded]
      cases made : source.image frame.encoder.layout.longDoubleFormat
          frame.encoder.byteOrder frame.encoder.layout.longDouble.size with
      | ok bytes =>
          exact putReference_follows (.array (.scratch bytes)) 0
            frame.encoder.layout.longDouble.size .input frame
      | error cause => rfl

/-! ## Structs -/

theorem structType_bind
    {Final : Type}
    (next : NativeType → Action Frame Final)
    (frame : Frame) :
    (structType >>= next) frame =
      match frame.signature.parameterType? frame.index with
      | some type => next type frame
      | none => .error (.undeclaredStruct frame.index) frame := by
  cases declared : frame.signature.parameterType? frame.index with
  | some type =>
      have found : structType frame = .ok type frame := by
        rw [structType, Action.get_bind, declared]
        rfl
      exact Action.bind_of_ok found
  | none =>
      have missing :
          structType frame = .error (.undeclaredStruct frame.index) frame := by
        rw [structType, Action.get_bind, declared]
        rfl
      exact Action.bind_of_error missing

/-- The effect of putting a struct from its bytes. -/
def planStruct
    (bytes : List UInt8)
    (offset : Nat)
    (frame : Frame) :
    Except Error Effect :=
  match frame.signature.parameterType? frame.index with
  | some type =>
    match readAt bytes offset type.size with
    | .ok source =>
      match frame.structPlacement? type with
      | some placement => frame.planInline placement source
      | none => frame.planReference (.struct bytes) offset type.size .input
    | .error error => .error error
  | none => .error (.undeclaredStruct frame.index)

theorem putStruct_follows (bytes : List UInt8) (offset : Nat) :
    Follows (putStruct bytes offset) (planStruct bytes offset) := by
  intro frame
  dsimp only
  rw [putStruct, structType_bind, planStruct]
  cases declared : frame.signature.parameterType? frame.index with
  | some type =>
      dsimp only
      rw [Action.ofExcept_bind]
      cases taken : readAt bytes offset type.size with
      | ok source =>
          dsimp only
          rw [Action.get_bind]
          cases placed : frame.structPlacement? type with
          | some placement => exact copyInline_follows placement source frame
          | none =>
              exact putReference_follows (.struct bytes) offset type.size
                .input frame
      | error cause => rfl
  | none => rfl

/-- The effect of putting a struct from its address. -/
def planStructAt
    (address : UInt64)
    (memory : List UInt8)
    (frame : Frame) :
    Except Error Effect :=
  match frame.signature.parameterType? frame.index with
  | some type =>
    match frame.structPlacement? type with
    | some placement =>
      if type.size = 0 then frame.planInline placement []
      else if address = 0 then .error (.nullStruct frame.index)
      else frame.planInline placement (readMemory memory type.size)
    | none => frame.planPrimitive (.address address)
  | none => .error (.undeclaredStruct frame.index)

theorem putStructAt_follows (address : UInt64) (memory : List UInt8) :
    Follows (putStructAt address memory) (planStructAt address memory) := by
  intro frame
  dsimp only
  rw [putStructAt, structType_bind, planStructAt]
  cases declared : frame.signature.parameterType? frame.index with
  | some type =>
      dsimp only
      rw [Action.get_bind]
      cases placed : frame.structPlacement? type with
      | some placement =>
          dsimp only
          by_cases empty : type.size = 0
          · rw [if_pos empty, if_pos empty]
            exact copyInline_follows placement [] frame
          · rw [if_neg empty, if_neg empty]
            by_cases null : address = 0
            · rw [if_pos null, if_pos null]
              rfl
            · rw [if_neg null, if_neg null]
              exact copyInline_follows placement _ frame
      | none => exact putPrimitive_follows (.address address) frame
  | none => rfl

/-! ## Puts -/

/-- The effect of putting an argument that is not checked. -/
def planUnchecked : Argument → Frame → Except Error Effect
  | .primitive value => planPrimitive value
  | .longDouble source => planLongDouble source
  | .array data offset length flags =>
    planReference (.array data) offset length flags
  | .directBuffer bytes offset length =>
    planReference (.directBuffer bytes) offset length .pinned
  | .object type offset length flags =>
    planReference (.object type) offset length flags
  | .environment => planReference .environment 0 0 .empty
  | .handle object => planReference (.handle object) 0 0 .empty
  | .struct bytes offset => planStruct bytes offset
  | .structAt address memory => planStructAt address memory

theorem putUnchecked_follows (argument : Argument) :
    Follows (putUnchecked argument) (planUnchecked argument) := by
  cases argument with
  | primitive value => exact putPrimitive_follows value
  | longDouble source => exact putLongDouble_follows source
  | array data offset length flags => exact putReference_follows _ _ _ _
  | directBuffer bytes offset length => exact putReference_follows _ _ _ _
  | object type offset length flags => exact putReference_follows _ _ _ _
  | environment => exact putReference_follows _ _ _ _
  | handle object => exact putReference_follows _ _ _ _
  | struct bytes offset => exact putStruct_follows bytes offset
  | structAt address memory => exact putStructAt_follows address memory

/-- Why the signature refuses a kind for the next parameter, if it does. -/
def refusal? (supplied : SuppliedKind) (frame : Frame) : Option Error :=
  if frame.validates then
    match frame.signature.parameterType? frame.index with
    | none =>
      some (.parameterCount frame.index frame.signature.parameterCount)
    | some type =>
      if supplied.accepts type then none
      else some (.parameterMismatch frame.index type.kind supplied)
  else
    none

theorem check_settles (supplied : SuppliedKind) :
    Action.Settles (check supplied) fun frame =>
      match frame.refusal? supplied with
      | some error => .error error
      | none => .ok frame := by
  intro frame
  dsimp only
  rw [check, Action.get_bind, refusal?]
  by_cases validates : frame.validates = true
  · rw [if_pos validates, if_pos validates]
    cases declared : frame.signature.parameterType? frame.index with
    | some type =>
        dsimp only
        by_cases accepted : supplied.accepts type = true
        · rw [if_pos accepted, Action.require_of accepted]
          rfl
        · rw [if_neg accepted, Action.require_of_not accepted]
          rfl
    | none => rfl
  · rw [if_neg validates, if_neg validates]
    rfl

/-- The effect of putting an argument. -/
def plan (argument : Argument) (frame : Frame) : Except Error Effect :=
  match frame.refusal? argument.suppliedKind with
  | some error => .error error
  | none => frame.planUnchecked argument

/-- A put applies its planned effect, or fails as planned without a trace. -/
theorem put_follows (argument : Argument) :
    Follows (put argument) (plan argument) := by
  intro frame
  dsimp only
  rw [put, (check_settles argument.suppliedKind).bind, plan]
  cases refused : frame.refusal? argument.suppliedKind with
  | some error => rfl
  | none => exact putUnchecked_follows argument frame

/-! ## Effects fit the frame -/

/-- An outcome in which whatever is written is inside the bytes of a frame. -/
def Fitting (frame : Frame) (outcome : Except Error Effect) : Prop :=
  ∀ effect, outcome = .ok effect →
    effect.start + effect.image.length ≤ frame.bytes.length

theorem fitting_planPrimitive (value : Primitive) (frame : Frame) :
    Fitting frame (frame.planPrimitive value) := by
  intro effect planned
  rw [planPrimitive] at planned
  by_cases fits :
      frame.encoder.primitiveEnd frame.offset value ≤ frame.bytes.length
  · rw [if_pos fits] at planned
    cases planned
    apply Nat.le_trans _ fits
    apply Nat.add_le_add_left
    dsimp only
    rw [Encoder.stored]
    by_cases zero : value = .address 0
    · rw [if_pos zero]
      exact Nat.zero_le _
    · rw [if_neg zero]
      exact Nat.le_of_eq (Writer.length_encode _ value)
  · rw [if_neg fits] at planned
    cases planned

theorem fitting_planReference
    (payload : Payload)
    (offset length : Nat)
    (flags : ParameterFlags)
    (frame : Frame) :
    Fitting frame (frame.planReference payload offset length flags) := by
  intro effect planned
  rw [planReference] at planned
  by_cases covered : payload.covers offset length = true
  · rw [if_pos covered] at planned
    cases address : frame.planPrimitive (.address 0) with
    | ok found =>
        rw [address] at planned
        cases planned
        exact fitting_planPrimitive (.address 0) frame found address
    | error cause =>
        rw [address] at planned
        cases planned
  · rw [if_neg covered] at planned
    cases planned

theorem fitting_planInline
    (placement : Placement)
    (source : List UInt8)
    (frame : Frame) :
    Fitting frame (frame.planInline placement source) := by
  intro effect planned
  rw [planInline] at planned
  split at planned
  · rename_i room
    cases planned
    exact room.2
  · cases planned

theorem fitting_planLongDouble (source : LongDoubleSource) (frame : Frame) :
    Fitting frame (frame.planLongDouble source) := by
  intro effect planned
  rw [planLongDouble] at planned
  cases made : source.image frame.encoder.layout.longDoubleFormat
      frame.encoder.byteOrder frame.encoder.layout.longDouble.size with
  | ok bytes =>
      rw [made] at planned
      split at planned
      · split at planned
        · rename_i room
          cases planned
          dsimp only
          rw [LongDoubleSource.length_of_image made]
          exact room.2
        · cases planned
      · exact fitting_planReference _ _ _ _ frame effect planned
  | error cause =>
      rw [made] at planned
      split at planned
      · split at planned <;> cases planned
      · cases planned

theorem fitting_planStruct
    (bytes : List UInt8)
    (offset : Nat)
    (frame : Frame) :
    Fitting frame (frame.planStruct bytes offset) := by
  intro effect planned
  rw [planStruct] at planned
  split at planned
  · split at planned
    · split at planned
      · exact fitting_planInline _ _ frame effect planned
      · exact fitting_planReference _ _ _ _ frame effect planned
    · cases planned
  · cases planned

theorem fitting_planStructAt
    (address : UInt64)
    (memory : List UInt8)
    (frame : Frame) :
    Fitting frame (frame.planStructAt address memory) := by
  intro effect planned
  rw [planStructAt] at planned
  split at planned
  · split at planned
    · split at planned
      · exact fitting_planInline _ _ frame effect planned
      · split at planned
        · cases planned
        · exact fitting_planInline _ _ frame effect planned
    · exact fitting_planPrimitive _ frame effect planned
  · cases planned

theorem fitting_planUnchecked (argument : Argument) (frame : Frame) :
    Fitting frame (frame.planUnchecked argument) := by
  cases argument with
  | primitive value => exact fitting_planPrimitive value frame
  | longDouble source => exact fitting_planLongDouble source frame
  | array data offset length flags => exact fitting_planReference _ _ _ _ frame
  | directBuffer bytes offset length =>
      exact fitting_planReference _ _ _ _ frame
  | object type offset length flags =>
      exact fitting_planReference _ _ _ _ frame
  | environment => exact fitting_planReference _ _ _ _ frame
  | handle object => exact fitting_planReference _ _ _ _ frame
  | struct bytes offset => exact fitting_planStruct bytes offset frame
  | structAt address memory => exact fitting_planStructAt address memory frame

/-- Whatever a put writes is inside the bytes of the frame. -/
theorem fitting_plan (argument : Argument) (frame : Frame) :
    Fitting frame (frame.plan argument) := by
  intro effect planned
  rw [plan] at planned
  split at planned
  · cases planned
  · exact fitting_planUnchecked argument frame effect planned

/-- A put does not change the size of the frame. -/
theorem length_bytes_apply
    {argument : Argument}
    {frame : Frame}
    {effect : Effect}
    (planned : frame.plan argument = .ok effect) :
    (effect.apply frame).bytes.length = frame.bytes.length :=
  length_overwrite (fitting_plan argument frame effect planned)

end Frame

end CallFrame
