import CallFrame.Proofs.Extent
import CallFrame.Proofs.Native.Cursor

/-!
# Puts into a native frame

A parameter of a native frame has its place: it starts where its alignment puts
it behind the cursor, and the next cursor is the one that the walk over the
types reaches.  A put of an argument that the parameter takes uses exactly that
place, whichever of the many ways of passing the argument it goes.

When the place is inside the frame, nothing but the argument itself can make
such a put fail: a window outside its source, a source that is too short, text
that is no number, or the null address of a struct that has to be copied.
`Argument.defect?` names that failure, and `planUnchecked_of_room` says that
there is no other one and what a put without a defect does.
-/

namespace CallFrame

open NativeType (BuiltFor)

/-! ## What an argument brings with it -/

namespace Argument

/-- What is wrong with an argument itself, for a parameter that takes it. -/
def defect?
    (argument : Argument)
    (type : NativeType)
    (index : Nat) :
    Option Error :=
  match argument with
  | .primitive _ => none
  | .longDouble (.double _) => none
  | .longDouble (.text content) =>
    let trimmed := trimBlanks content.toList
    match Literal.parse trimmed with
    | some _ => none
    | none => some (.notDecimal (String.ofList trimmed))
  | .array data offset length _ => (Payload.array data).defect? offset length
  | .directBuffer bytes offset length =>
    (Payload.directBuffer bytes).defect? offset length
  | .object _ _ _ _ | .environment | .handle _ => none
  | .struct bytes offset =>
    if offset + type.size ≤ bytes.length then none else some .outOfBounds
  | .structAt address _ =>
    if type.kind = .struct ∧ type.size ≠ 0 ∧ address = 0 then
      some (.nullStruct index)
    else
      none

/--
The bytes of an argument in the frame, for a parameter that takes it.  What is
passed by address has the bytes of the zero address.
-/
def image
    (argument : Argument)
    (encoder : Encoder)
    (type : NativeType) :
    List UInt8 :=
  match argument with
  | .primitive value => encoder.writer.encode value
  | .longDouble source =>
    match source.image encoder.layout.longDoubleFormat encoder.byteOrder
        type.size with
    | .ok bytes => bytes
    | .error _ => []
  | .array _ _ _ _ | .directBuffer _ _ _ | .object _ _ _ _ | .environment
  | .handle _ => encoder.writer.encode (.address 0)
  | .struct bytes offset =>
    if type.kind = .struct then window bytes offset type.size
    else encoder.writer.encode (.address 0)
  | .structAt address memory =>
    if type.kind = .struct then Frame.readMemory memory type.size
    else encoder.writer.encode (.address address)

/-- A struct without a defect has its declared bytes in the source. -/
theorem add_size_le_of_sound
    {bytes : List UInt8}
    {offset index : Nat}
    {type : NativeType}
    (sound : (Argument.struct bytes offset).defect? type index = none) :
    offset + type.size ≤ bytes.length := by
  by_contra short
  rw [defect?, if_neg short] at sound
  cases sound

end Argument

/-! ## Places -/

/-- An effect fills a place with bytes, of which zeros need not be written. -/
structure Effect.Fills
    (effect : Effect)
    (start : Nat)
    (image : List UInt8)
    (next : Nat) :
    Prop where
  start_eq : effect.start = start
  next_eq : effect.next = next
  image_eq :
    effect.image = image ∨
      effect.image = [] ∧ image = List.replicate image.length 0

/-- An outcome is the given defect, or an effect that fills a place. -/
def Effect.Outcome
    (outcome : Except Error Effect)
    (defect? : Option Error)
    (start : Nat)
    (image : List UInt8)
    (next : Nat) :
    Prop :=
  match defect? with
  | some error => outcome = .error error
  | none => ∃ effect, outcome = .ok effect ∧ effect.Fills start image next

namespace Frame

variable {platform : Platform} {frame : Frame} {type : NativeType}

/-- A primitive is put where a type of the same layout has its place. -/
theorem planPrimitive_of_room
    (native : frame.encoder.NativeFor platform)
    (value : Primitive)
    (same : platform.layout.ofPrimitive value = ⟨type.size, type.alignment⟩)
    (plain : ¬ (type.kind = .struct ∨ type.kind = .longDouble))
    (room :
      frame.encoder.offsetAfter frame.offset type ≤ frame.bytes.length) :
    Effect.Outcome (frame.planPrimitive value) none
      (frame.encoder.align frame.offset type.alignment)
      (frame.encoder.writer.encode value)
      (frame.encoder.offsetAfter frame.offset type) := by
  have next := native.primitiveNext_eq same plain frame.offset
  have fits :
      frame.encoder.primitiveEnd frame.offset value ≤ frame.bytes.length :=
    Nat.le_trans (native.spacious frame.offset value)
      (next ▸ room)
  refine
    ⟨_, if_pos fits, native.primitiveStart_eq same frame.offset, next, ?_⟩
  rw [Encoder.stored]
  by_cases zero : value = .address 0
  · rw [if_pos zero, zero]
    exact Or.inr ⟨rfl, frame.encoder.writer.encode_zero⟩
  · rw [if_neg zero]
    exact Or.inl rfl

/-- The zero address of a payload is put in the place of a pointer. -/
theorem planReference_of_room
    (native : frame.encoder.NativeFor platform)
    (built : BuiltFor platform type)
    (kind : type.kind = .pointer ∨ type.kind = .object)
    (payload : Payload)
    (offset length : Nat)
    (flags : ParameterFlags)
    (room :
      frame.encoder.offsetAfter frame.offset type ≤ frame.bytes.length) :
    Effect.Outcome (frame.planReference payload offset length flags)
      (payload.defect? offset length)
      (frame.encoder.align frame.offset type.alignment)
      (frame.encoder.writer.encode (.address 0))
      (frame.encoder.offsetAfter frame.offset type) := by
  have plain : ¬ (type.kind = .struct ∨ type.kind = .longDouble) := by
    rcases kind with equal | equal <;> rw [equal] <;> decide
  obtain ⟨effect, planned, fills⟩ :=
    planPrimitive_of_room native (.address 0)
      (layout_pointer_of_kind built kind) plain room
  rw [planReference, Payload.defect?]
  by_cases covered : payload.covers offset length = true
  · rw [if_pos covered, if_pos covered, planned]
    exact ⟨_, rfl, fills.start_eq, fills.next_eq, fills.image_eq⟩
  · rw [if_neg covered, if_neg covered]
    rfl

/-- Bytes for which the placement is inside the frame are copied there. -/
theorem planInline_of_room
    {placement : Placement}
    {source : List UInt8}
    (next : placement.next ≤ frame.bytes.length)
    (last : placement.start + source.length ≤ placement.next) :
    Effect.Outcome (frame.planInline placement source) none placement.start
      source placement.next :=
  ⟨_, if_pos ⟨next, Nat.le_trans last next⟩, rfl, rfl, Or.inl rfl⟩

/-- With room for its format, only the text of a `long double` can be wrong. -/
theorem image_of_encodedLength_le
    (source : LongDoubleSource)
    {format : LongDoubleFormat}
    (order : ByteOrder)
    (type : NativeType)
    (index : Nat)
    (room : format.encodedLength ≤ type.size) :
    match (Argument.longDouble source).defect? type index with
    | some error => source.image format order type.size = .error error
    | none => ∃ bytes, source.image format order type.size = .ok bytes := by
  cases source with
  | double pattern => exact ⟨_, if_pos room⟩
  | text content =>
      rw [Argument.defect?, LongDoubleSource.image, LongDoubleSource.parts]
      cases Literal.parse (trimBlanks content.toList) with
      | some literal => exact ⟨_, if_pos room⟩
      | none => rfl

/-- A declared `long double` has room for the format of its platform. -/
theorem encodedLength_le_of_kind
    {encoder : Encoder}
    (native : encoder.NativeFor platform)
    (built : BuiltFor platform type)
    (kind : type.kind = .longDouble) :
    encoder.layout.longDoubleFormat.encodedLength ≤ type.size := by
  have size : platform.layout.longDouble.size = type.size :=
    congrArg TypeLayout.size (layout_longDouble_of_kind built kind)
  rw [native.layout_eq, ← size]
  exact platform.encodedLength_le_size

/-- A `long double` without a defect has bytes. -/
theorem exists_image_of_sound
    {encoder : Encoder}
    {source : LongDoubleSource}
    {index : Nat}
    (native : encoder.NativeFor platform)
    (built : BuiltFor platform type)
    (kind : type.kind = .longDouble)
    (sound : (Argument.longDouble source).defect? type index = none) :
    ∃ bytes,
      source.image encoder.layout.longDoubleFormat encoder.byteOrder
          type.size = .ok bytes := by
  have made :=
    image_of_encodedLength_le source encoder.byteOrder type index
      (encodedLength_le_of_kind native built kind)
  rw [sound] at made
  exact made

theorem planLongDouble_of_room
    (native : frame.encoder.NativeFor platform)
    (built : BuiltFor platform type)
    (kind : type.kind = .longDouble)
    (source : LongDoubleSource)
    (room :
      frame.encoder.offsetAfter frame.offset type ≤ frame.bytes.length) :
    Effect.Outcome (frame.planLongDouble source)
      ((Argument.longDouble source).defect? type frame.index)
      (frame.encoder.align frame.offset type.alignment)
      ((Argument.longDouble source).image frame.encoder type)
      (frame.encoder.offsetAfter frame.offset type) := by
  have size : frame.encoder.layout.longDouble.size = type.size := by
    rw [native.layout_eq, layout_longDouble_of_kind built kind]
  have last := frame.encoder.align_add_size_le (Or.inr kind) frame.offset
  have made :=
    image_of_encodedLength_le source frame.encoder.byteOrder type frame.index
      (encodedLength_le_of_kind native built kind)
  rw [planLongDouble, native.longDoublePlacement_eq built kind, size]
  dsimp only
  rw [if_pos ⟨room, Nat.le_trans last room⟩]
  cases wrong : (Argument.longDouble source).defect? type frame.index with
  | some error =>
      rw [wrong] at made
      rw [made]
      rfl
  | none =>
      rw [wrong] at made
      obtain ⟨bytes, encoded⟩ := made
      rw [Argument.image, encoded]
      exact ⟨_, rfl, rfl, rfl, Or.inl rfl⟩

/-- Where a struct parameter lands in a native frame. -/
theorem structPlacement_of_kind
    (native : frame.encoder.NativeFor platform)
    (built : BuiltFor platform type)
    (kind : type.kind = .struct)
    (ready : frame.encoder.Ready frame.offset) :
    frame.structPlacement? type =
      some ⟨frame.encoder.align frame.offset type.alignment,
        frame.encoder.offsetAfter frame.offset type⟩ := by
  rw [structPlacement?, if_pos kind, native.structPlacement_eq built kind ready]

theorem planStruct_of_room
    (native : frame.encoder.NativeFor platform)
    (built : BuiltFor platform type)
    (declared : frame.signature.parameterType? frame.index = some type)
    (accepted : SuppliedKind.struct.accepts type = true)
    (ready : frame.encoder.Ready frame.offset)
    (bytes : List UInt8)
    (offset : Nat)
    (room :
      frame.encoder.offsetAfter frame.offset type ≤ frame.bytes.length) :
    Effect.Outcome (frame.planStruct bytes offset)
      ((Argument.struct bytes offset).defect? type frame.index)
      (frame.encoder.align frame.offset type.alignment)
      ((Argument.struct bytes offset).image frame.encoder type)
      (frame.encoder.offsetAfter frame.offset type) := by
  rw [planStruct, declared, Argument.defect?, Argument.image]
  dsimp only
  rw [readAt]
  by_cases enough : offset + type.size ≤ bytes.length
  · rw [if_pos enough, if_pos enough]
    dsimp only
    by_cases kind : type.kind = .struct
    · rw [structPlacement_of_kind native built kind ready, if_pos kind]
      apply planInline_of_room room
      rw [length_window enough]
      exact frame.encoder.align_add_size_le (Or.inl kind) frame.offset
    · have pointer := kind_of_accepts_struct accepted kind
      have covered :
          (Payload.struct bytes).defect? offset type.size = none :=
        if_pos (decide_eq_true enough)
      rw [structPlacement?, if_neg kind, if_neg kind, ← covered]
      exact planReference_of_room native built (Or.inl pointer) _ _ _ _ room
  · rw [if_neg enough, if_neg enough]
    rfl

theorem planStructAt_of_room
    (native : frame.encoder.NativeFor platform)
    (built : BuiltFor platform type)
    (declared : frame.signature.parameterType? frame.index = some type)
    (accepted : SuppliedKind.struct.accepts type = true)
    (ready : frame.encoder.Ready frame.offset)
    (address : UInt64)
    (memory : List UInt8)
    (room :
      frame.encoder.offsetAfter frame.offset type ≤ frame.bytes.length) :
    Effect.Outcome (frame.planStructAt address memory)
      ((Argument.structAt address memory).defect? type frame.index)
      (frame.encoder.align frame.offset type.alignment)
      ((Argument.structAt address memory).image frame.encoder type)
      (frame.encoder.offsetAfter frame.offset type) := by
  rw [planStructAt, declared, Argument.defect?, Argument.image]
  dsimp only
  by_cases kind : type.kind = .struct
  · have last := frame.encoder.align_add_size_le (Or.inl kind) frame.offset
    rw [structPlacement_of_kind native built kind ready, if_pos kind]
    dsimp only
    by_cases empty : type.size = 0
    · have nothing : readMemory memory type.size = [] :=
        List.eq_nil_of_length_eq_zero
          ((length_readMemory memory type.size).trans empty)
      rw [if_pos empty, if_neg fun wrong => wrong.2.1 empty, nothing]
      apply planInline_of_room room
      exact Nat.le_trans (Nat.le_add_right _ _) last
    · rw [if_neg empty]
      by_cases null : address = 0
      · rw [if_pos null, if_pos ⟨kind, empty, null⟩]
        rfl
      · rw [if_neg null, if_neg fun wrong => null wrong.2.2]
        apply planInline_of_room room
        rw [length_readMemory]
        exact last
  · have pointer := kind_of_accepts_struct accepted kind
    have plain : ¬ (type.kind = .struct ∨ type.kind = .longDouble) := by
      rw [pointer]
      decide
    rw [structPlacement?, if_neg kind, if_neg kind,
      if_neg fun wrong => kind wrong.1]
    exact planPrimitive_of_room native (.address address)
      (layout_pointer_of_kind built (Or.inl pointer)) plain room

/-! ## Every argument -/

/--
A put of an argument that the next parameter takes, with the place of that
parameter inside the frame, fails with the defect of the argument or fills the
place with its bytes.
-/
theorem planUnchecked_of_room
    (native : frame.encoder.NativeFor platform)
    (built : BuiltFor platform type)
    (declared : frame.signature.parameterType? frame.index = some type)
    (argument : Argument)
    (accepted : argument.suppliedKind.accepts type = true)
    (ready : frame.encoder.Ready frame.offset)
    (room :
      frame.encoder.offsetAfter frame.offset type ≤ frame.bytes.length) :
    Effect.Outcome (frame.planUnchecked argument)
      (argument.defect? type frame.index)
      (frame.encoder.align frame.offset type.alignment)
      (argument.image frame.encoder type)
      (frame.encoder.offsetAfter frame.offset type) := by
  cases argument with
  | primitive value =>
      exact planPrimitive_of_room native value
        (layout_ofPrimitive_of_accepts built accepted)
        (kind_of_accepts_primitive accepted) room
  | longDouble source =>
      have kind := kind_of_accepts_longDouble accepted
      exact planLongDouble_of_room native built kind source room
  | array data offset length flags =>
      have kind := kind_of_accepts_reference accepted
      exact planReference_of_room native built kind _ _ _ _ room
  | directBuffer bytes offset length =>
      have kind := kind_of_accepts_reference accepted
      exact planReference_of_room native built kind _ _ _ _ room
  | object object offset length flags =>
      have kind := kind_of_accepts_reference accepted
      exact planReference_of_room native built kind (.object object) _ _ _ room
  | environment =>
      have kind := kind_of_accepts_reference accepted
      exact planReference_of_room native built kind .environment _ _ _ room
  | handle object =>
      have kind := kind_of_accepts_reference accepted
      exact planReference_of_room native built kind (.handle object) _ _ _ room
  | struct bytes offset =>
      exact planStruct_of_room native built declared accepted ready bytes
        offset room
  | structAt address memory =>
      exact planStructAt_of_room native built declared accepted ready address
        memory room

end Frame

end CallFrame
