import CallFrame.Proofs.Run

/-!
# Ways into a frame

An argument gets into a frame in one of three ways.  It is written as a
primitive, it leaves a zero address and is registered, or its bytes are copied
to a placement.  Which way it goes is settled before anything is done: it
follows from the argument, the encoder and the declared type, and the bytes
packed so far have no part in it.

`Frame.passage` is that way, or the defect of an argument that has none.  What a
put does is then told by the way alone.  With room it has the effect of the way,
and without room it is out of bounds, so that `plan_eq_ok_iff` is all that there
is to know about a put that succeeds.  `Frame.Enters` lists the ways that there
are, and what is known of an argument that goes one of them.
-/

namespace CallFrame

/-- What is wrong with a window of a payload. -/
def Payload.defect? (payload : Payload) (offset length : Nat) : Option Error :=
  if payload.covers offset length then none else some .outOfBounds

/-- A window that is covered ends inside of its source. -/
theorem Payload.add_le_of_covers
    {payload : Payload}
    {offset length available : Nat}
    (covered : payload.covers offset length = true)
    (known : payload.sourceLength? = some available) :
    offset + length ≤ available := by
  rw [Payload.covers, known] at covered
  exact of_decide_eq_true covered

/-- A way in which an argument gets into a frame. -/
inductive Passage where
  /-- It is written as a primitive. -/
  | written (value : Primitive)
  /-- It leaves a zero address and is registered. -/
  | registered (entry : Entry)
  /-- Its bytes are copied to a placement. -/
  | copied (placement : Placement) (source : List UInt8)
deriving DecidableEq, Repr

namespace Passage

/-- The effect of a way into a frame. -/
def effect (passage : Passage) (frame : Frame) : Effect :=
  match passage with
  | written value =>
    { start := frame.encoder.primitiveStart frame.offset value
      image := frame.encoder.stored value
      next := frame.encoder.primitiveNext frame.offset value
      registration? := none }
  | registered entry =>
    { start := frame.encoder.primitiveStart frame.offset (.address 0)
      image := []
      next := frame.encoder.primitiveNext frame.offset (.address 0)
      registration? := some entry }
  | copied placement source => ⟨placement.start, source, placement.next, none⟩

/-- There is room for a way in a frame. -/
def Fits (passage : Passage) (frame : Frame) : Prop :=
  match passage with
  | written value =>
    frame.encoder.primitiveEnd frame.offset value ≤ frame.bytes.length
  | registered _ =>
    frame.encoder.primitiveEnd frame.offset (.address 0) ≤ frame.bytes.length
  | copied placement source =>
    placement.next ≤ frame.bytes.length ∧
      placement.start + source.length ≤ frame.bytes.length

instance (passage : Passage) (frame : Frame) : Decidable (passage.Fits frame) :=
  match passage with
  | written _ => inferInstanceAs (Decidable (_ ≤ _))
  | registered _ => inferInstanceAs (Decidable (_ ≤ _))
  | copied _ _ => inferInstanceAs (Decidable (_ ∧ _))

/-- What comes of a way into a frame. -/
def outcome (passage : Passage) (frame : Frame) : Except Error Effect :=
  if passage.Fits frame then .ok (passage.effect frame) else .error .outOfBounds

/-- The way of an entry, whose window must be inside its source. -/
def ofEntry (entry : Entry) : Except Error Passage :=
  match entry.payload.defect? entry.offset entry.length with
  | some error => .error error
  | none => .ok (registered entry)

theorem ofEntry_of_covers
    {entry : Entry}
    (covered : entry.payload.covers entry.offset entry.length = true) :
    ofEntry entry = .ok (registered entry) := by
  rw [ofEntry, Payload.defect?, if_pos covered]

theorem ofEntry_of_not_covers
    {entry : Entry}
    (uncovered : ¬ entry.payload.covers entry.offset entry.length = true) :
    ofEntry entry = .error .outOfBounds := by
  rw [ofEntry, Payload.defect?, if_neg uncovered]

/-- The way of an entry fails exactly for the defect of its payload. -/
theorem ofEntry_eq_error_iff
    {entry : Entry}
    {error : Error} :
    ofEntry entry = .error error ↔
      entry.payload.defect? entry.offset entry.length = some error := by
  rw [ofEntry]
  cases entry.payload.defect? entry.offset entry.length <;> simp

theorem covers_of_ofEntry
    {entry : Entry}
    {passage : Passage}
    (way : ofEntry entry = .ok passage) :
    entry.payload.covers entry.offset entry.length = true ∧
      passage = registered entry := by
  by_cases covered : entry.payload.covers entry.offset entry.length = true
  · rw [ofEntry_of_covers covered] at way
    cases way
    exact ⟨covered, rfl⟩
  · rw [ofEntry_of_not_covers covered] at way
    cases way

end Passage

/-- The entry of an argument that is passed by address in every frame. -/
def Argument.reference? (index : Nat) : Argument → Option Entry
  | .array data offset length flags =>
    some ⟨index, .array data, offset, length, flags⟩
  | .directBuffer bytes offset length =>
    some ⟨index, .directBuffer bytes, offset, length, .pinned⟩
  | .object type offset length flags =>
    some ⟨index, .object type, offset, length, flags⟩
  | .environment => some ⟨index, .environment, 0, 0, .empty⟩
  | .handle managed => some ⟨index, .handle managed, 0, 0, .empty⟩
  | .primitive _ | .longDouble _ | .struct _ _ | .structAt _ _ => none

namespace Frame

/-! ## The way of an argument -/

/-- The way of a `long double`. -/
def longDoublePassage
    (source : LongDoubleSource)
    (frame : Frame) :
    Except Error Passage :=
  let size := frame.encoder.layout.longDouble.size
  match source.image frame.encoder.layout.longDoubleFormat
      frame.encoder.byteOrder size with
  | .ok bytes =>
    match frame.encoder.longDoublePlacement? frame.offset with
    | some placement => .ok (.copied placement bytes)
    | none =>
      Passage.ofEntry ⟨frame.index, .array (.scratch bytes), 0, size, .input⟩
  | .error error => .error error

/-- The way of a struct that is given by its bytes. -/
def structPassage
    (bytes : List UInt8)
    (offset : Nat)
    (frame : Frame) :
    Except Error Passage :=
  match frame.signature.parameterType? frame.index with
  | some type =>
    match frame.structPlacement? type with
    | some placement =>
      if offset + type.size ≤ bytes.length then
        .ok (.copied placement (window bytes offset type.size))
      else
        .error .outOfBounds
    | none =>
      Passage.ofEntry ⟨frame.index, .struct bytes, offset, type.size, .input⟩
  | none => .error (.undeclaredStruct frame.index)

/-- The way of a struct that is given by its address. -/
def structAtPassage
    (address : UInt64)
    (memory : List UInt8)
    (frame : Frame) :
    Except Error Passage :=
  match frame.signature.parameterType? frame.index with
  | some type =>
    match frame.structPlacement? type with
    | some placement =>
      if type.size ≠ 0 ∧ address = 0 then .error (.nullStruct frame.index)
      else .ok (.copied placement (readMemory memory type.size))
    | none => .ok (.written (.address address))
  | none => .error (.undeclaredStruct frame.index)

/-- The way of an argument into a frame, or the defect of the argument. -/
def passage (argument : Argument) (frame : Frame) : Except Error Passage :=
  match argument with
  | .primitive value => .ok (.written value)
  | .longDouble source => frame.longDoublePassage source
  | .array data offset length flags =>
    Passage.ofEntry ⟨frame.index, .array data, offset, length, flags⟩
  | .directBuffer bytes offset length =>
    Passage.ofEntry ⟨frame.index, .directBuffer bytes, offset, length, .pinned⟩
  | .object type offset length flags =>
    Passage.ofEntry ⟨frame.index, .object type, offset, length, flags⟩
  | .environment => Passage.ofEntry ⟨frame.index, .environment, 0, 0, .empty⟩
  | .handle object =>
    Passage.ofEntry ⟨frame.index, .handle object, 0, 0, .empty⟩
  | .struct bytes offset => frame.structPassage bytes offset
  | .structAt address memory => frame.structAtPassage address memory

/-! ## Plans follow the way -/

/--
A plan is the outcome of a way, or the defect of an argument without one.  In a
native frame room is reserved before a `long double` is made, and the lack of it
can be found first.
-/
def Takes
    (outcome : Except Error Effect)
    (frame : Frame) :
    Except Error Passage → Prop
  | .ok passage => outcome = passage.outcome frame
  | .error error =>
    outcome = .error error ∨
      frame.encoder.isRaw = true ∧ outcome = .error .outOfBounds

theorem takes_planPrimitive (value : Primitive) (frame : Frame) :
    Takes (frame.planPrimitive value) frame (.ok (.written value)) := rfl

theorem takes_planReference
    (payload : Payload)
    (offset length : Nat)
    (flags : ParameterFlags)
    (frame : Frame) :
    Takes (frame.planReference payload offset length flags) frame
      (Passage.ofEntry ⟨frame.index, payload, offset, length, flags⟩) := by
  rw [planReference]
  by_cases covered : payload.covers offset length = true
  · rw [if_pos covered, Passage.ofEntry_of_covers covered, planPrimitive]
    show Except.map _ _ = Passage.outcome _ _
    rw [Passage.outcome]
    by_cases fits :
        frame.encoder.primitiveEnd frame.offset (.address 0) ≤
          frame.bytes.length
    · rw [if_pos fits]
      exact (if_pos fits).symm
    · rw [if_neg fits]
      exact (if_neg fits).symm
  · rw [if_neg covered, Passage.ofEntry_of_not_covers covered]
    exact Or.inl rfl

theorem takes_planInline
    (placement : Placement)
    (source : List UInt8)
    (frame : Frame) :
    Takes (frame.planInline placement source) frame
      (.ok (.copied placement source)) := rfl

/-- Only a native frame has a place for a `long double`. -/
theorem isRaw_of_longDoublePlacement
    {encoder : Encoder}
    {offset : Nat}
    {placement : Placement}
    (placed : encoder.longDoublePlacement? offset = some placement) :
    encoder.isRaw = true := by
  rw [Encoder.longDoublePlacement?] at placed
  split at placed
  · assumption
  · cases placed

theorem takes_planLongDouble (source : LongDoubleSource) (frame : Frame) :
    Takes (frame.planLongDouble source) frame
      (frame.longDoublePassage source) := by
  rw [planLongDouble, longDoublePassage]
  cases made : source.image frame.encoder.layout.longDoubleFormat
      frame.encoder.byteOrder frame.encoder.layout.longDouble.size with
  | ok bytes =>
      have length := LongDoubleSource.length_of_image made
      cases placed : frame.encoder.longDoublePlacement? frame.offset with
      | some placement =>
          dsimp only
          rw [← length]
          exact takes_planInline placement bytes frame
      | none => exact takes_planReference _ _ _ _ frame
  | error cause =>
      cases placed : frame.encoder.longDoublePlacement? frame.offset with
      | some placement =>
          have raw := isRaw_of_longDoublePlacement placed
          dsimp only
          split
          · exact Or.inl rfl
          · exact Or.inr ⟨raw, rfl⟩
      | none => exact Or.inl rfl

theorem takes_planStruct
    (bytes : List UInt8)
    (offset : Nat)
    (frame : Frame) :
    Takes (frame.planStruct bytes offset) frame
      (frame.structPassage bytes offset) := by
  rw [planStruct, structPassage]
  cases frame.signature.parameterType? frame.index with
  | none => exact Or.inl rfl
  | some type =>
      dsimp only
      rw [readAt]
      cases frame.structPlacement? type with
      | some placement =>
          dsimp only
          by_cases enough : offset + type.size ≤ bytes.length
          · rw [if_pos enough, if_pos enough]
            exact takes_planInline placement _ frame
          · rw [if_neg enough, if_neg enough]
            exact Or.inl rfl
      | none =>
          -- a source that is too short is refused as a window of a payload is
          by_cases enough : offset + type.size ≤ bytes.length
          · rw [if_pos enough]
            exact takes_planReference _ _ _ _ frame
          · have uncovered :
                ¬ (Payload.struct bytes).covers offset type.size = true :=
              fun covered => enough (of_decide_eq_true covered)
            rw [if_neg enough]
            dsimp only
            rw [Passage.ofEntry_of_not_covers uncovered]
            exact Or.inl rfl

theorem takes_planStructAt
    (address : UInt64)
    (memory : List UInt8)
    (frame : Frame) :
    Takes (frame.planStructAt address memory) frame
      (frame.structAtPassage address memory) := by
  rw [planStructAt, structAtPassage]
  cases frame.signature.parameterType? frame.index with
  | none => exact Or.inl rfl
  | some type =>
      dsimp only
      cases frame.structPlacement? type with
      | some placement =>
          dsimp only
          by_cases empty : type.size = 0
          · have nothing : readMemory memory type.size = [] := by
              rw [empty]
              simp [readMemory]
            rw [if_pos empty, if_neg fun wrong => wrong.1 empty, nothing]
            exact takes_planInline placement [] frame
          · rw [if_neg empty]
            by_cases null : address = 0
            · rw [if_pos null, if_pos ⟨empty, null⟩]
              exact Or.inl rfl
            · rw [if_neg null, if_neg fun wrong => null wrong.2]
              exact takes_planInline placement _ frame
      | none => exact takes_planPrimitive (.address address) frame

/-- A put that is not checked goes the way of its argument. -/
theorem takes_planUnchecked (argument : Argument) (frame : Frame) :
    Takes (frame.planUnchecked argument) frame (frame.passage argument) := by
  cases argument with
  | primitive value => exact takes_planPrimitive value frame
  | longDouble source => exact takes_planLongDouble source frame
  | array data offset length flags => exact takes_planReference _ _ _ _ frame
  | directBuffer bytes offset length => exact takes_planReference _ _ _ _ frame
  | object type offset length flags => exact takes_planReference _ _ _ _ frame
  | environment => exact takes_planReference _ _ _ _ frame
  | handle object => exact takes_planReference _ _ _ _ frame
  | struct bytes offset => exact takes_planStruct bytes offset frame
  | structAt address memory => exact takes_planStructAt address memory frame

variable {argument : Argument} {frame : Frame} {effect : Effect}

/-- A put succeeds if the signature admits it, it has a way, and there is room. -/
theorem plan_eq_ok_iff :
    frame.plan argument = .ok effect ↔
      frame.refusal? argument.suppliedKind = none ∧
        ∃ passage, frame.passage argument = .ok passage ∧
          passage.Fits frame ∧ passage.effect frame = effect := by
  rw [plan]
  cases frame.refusal? argument.suppliedKind with
  | some error => simp
  | none =>
      have takes := takes_planUnchecked argument frame
      dsimp only
      cases way : frame.passage argument with
      | error cause =>
          rw [way] at takes
          rcases takes with failed | ⟨-, failed⟩ <;> simp [failed]
      | ok passage =>
          rw [way] at takes
          replace takes : frame.planUnchecked argument = passage.outcome frame :=
            takes
          rw [takes, Passage.outcome]
          by_cases fits : passage.Fits frame
          · simp [fits]
          · simp [fits]

/-- In a slotted frame nothing comes before the defect of an argument. -/
theorem plan_of_slotted
    (slotted : frame.encoder.isRaw = false)
    (admitted : frame.refusal? argument.suppliedKind = none) :
    frame.plan argument =
      frame.passage argument >>= fun passage => passage.outcome frame := by
  have takes := takes_planUnchecked argument frame
  rw [plan, admitted]
  cases way : frame.passage argument with
  | error cause =>
      rw [way] at takes
      rcases takes with failed | ⟨raw, -⟩
      · exact failed
      · rw [slotted] at raw
        cases raw
  | ok passage =>
      rw [way] at takes
      exact takes

/-! ## Arguments and the ways they go -/

/-- The ways into a frame, and the arguments that go them. -/
inductive Enters (frame : Frame) : Argument → Passage → Prop where
  | primitive (value : Primitive) :
      Enters frame (.primitive value) (.written value)
  | reference
      {argument : Argument}
      {entry : Entry}
      (referred : argument.reference? frame.index = some entry)
      (covered : entry.payload.covers entry.offset entry.length = true) :
      Enters frame argument (.registered entry)
  | longDouble
      {source : LongDoubleSource}
      {bytes : List UInt8}
      {placement : Placement}
      (made :
        source.image frame.encoder.layout.longDoubleFormat
          frame.encoder.byteOrder frame.encoder.layout.longDouble.size =
            .ok bytes)
      (placed :
        frame.encoder.longDoublePlacement? frame.offset = some placement) :
      Enters frame (.longDouble source) (.copied placement bytes)
  | scratch
      {source : LongDoubleSource}
      {bytes : List UInt8}
      (made :
        source.image frame.encoder.layout.longDoubleFormat
          frame.encoder.byteOrder frame.encoder.layout.longDouble.size =
            .ok bytes)
      (boxed : frame.encoder.longDoublePlacement? frame.offset = none)
      (covered :
        (Payload.array (.scratch bytes)).covers 0
          frame.encoder.layout.longDouble.size = true) :
      Enters frame (.longDouble source)
        (.registered ⟨frame.index, .array (.scratch bytes), 0,
          frame.encoder.layout.longDouble.size, .input⟩)
  | struct
      {bytes : List UInt8}
      {offset : Nat}
      {type : NativeType}
      {placement : Placement}
      (declared : frame.signature.parameterType? frame.index = some type)
      (placed : frame.structPlacement? type = some placement)
      (enough : offset + type.size ≤ bytes.length) :
      Enters frame (.struct bytes offset)
        (.copied placement (window bytes offset type.size))
  | structReference
      {bytes : List UInt8}
      {offset : Nat}
      {type : NativeType}
      (declared : frame.signature.parameterType? frame.index = some type)
      (boxed : frame.structPlacement? type = none)
      (covered : (Payload.struct bytes).covers offset type.size = true) :
      Enters frame (.struct bytes offset)
        (.registered
          ⟨frame.index, .struct bytes, offset, type.size, .input⟩)
  | structAt
      {address : UInt64}
      {memory : List UInt8}
      {type : NativeType}
      {placement : Placement}
      (declared : frame.signature.parameterType? frame.index = some type)
      (placed : frame.structPlacement? type = some placement)
      (present : ¬ (type.size ≠ 0 ∧ address = 0)) :
      Enters frame (.structAt address memory)
        (.copied placement (readMemory memory type.size))
  | structAddress
      {address : UInt64}
      {memory : List UInt8}
      {type : NativeType}
      (declared : frame.signature.parameterType? frame.index = some type)
      (boxed : frame.structPlacement? type = none) :
      Enters frame (.structAt address memory) (.written (.address address))

variable {passage : Passage}

theorem enters_of_ofEntry
    {entry : Entry}
    (referred : argument.reference? frame.index = some entry)
    (way : Passage.ofEntry entry = .ok passage) :
    Enters frame argument passage := by
  obtain ⟨covered, rfl⟩ := Passage.covers_of_ofEntry way
  exact .reference referred covered

theorem enters_of_longDoublePassage
    {source : LongDoubleSource}
    (way : frame.longDoublePassage source = .ok passage) :
    Enters frame (.longDouble source) passage := by
  rw [longDoublePassage] at way
  split at way
  · rename_i bytes made
    split at way
    · rename_i placement placed
      cases way
      exact .longDouble made placed
    · rename_i boxed
      obtain ⟨covered, rfl⟩ := Passage.covers_of_ofEntry way
      exact .scratch made boxed covered
  · cases way

theorem enters_of_structPassage
    {bytes : List UInt8}
    {offset : Nat}
    (way : frame.structPassage bytes offset = .ok passage) :
    Enters frame (.struct bytes offset) passage := by
  rw [structPassage] at way
  split at way
  · rename_i type declared
    split at way
    · rename_i placement placed
      split at way
      · rename_i enough
        cases way
        exact .struct declared placed enough
      · cases way
    · rename_i boxed
      obtain ⟨covered, rfl⟩ := Passage.covers_of_ofEntry way
      exact .structReference declared boxed covered
  · cases way

theorem enters_of_structAtPassage
    {address : UInt64}
    {memory : List UInt8}
    (way : frame.structAtPassage address memory = .ok passage) :
    Enters frame (.structAt address memory) passage := by
  rw [structAtPassage] at way
  split at way
  · rename_i type declared
    split at way
    · rename_i placement placed
      split at way
      · cases way
      · rename_i present
        cases way
        exact .structAt declared placed present
    · rename_i boxed
      cases way
      exact .structAddress declared boxed
  · cases way

/-- An argument that has a way goes one of those that are listed. -/
theorem enters_of_passage
    (way : frame.passage argument = .ok passage) :
    Enters frame argument passage := by
  cases argument with
  | primitive value =>
      cases way
      exact .primitive value
  | longDouble source => exact enters_of_longDoublePassage way
  | array data offset length flags => exact enters_of_ofEntry rfl way
  | directBuffer bytes offset length => exact enters_of_ofEntry rfl way
  | object type offset length flags => exact enters_of_ofEntry rfl way
  | environment => exact enters_of_ofEntry rfl way
  | handle object => exact enters_of_ofEntry rfl way
  | struct bytes offset => exact enters_of_structPassage way
  | structAt address memory => exact enters_of_structAtPassage way

/-- The way of a put that succeeds, which has room and gives the effect. -/
theorem exists_enters_of_plan
    (planned : frame.plan argument = .ok effect) :
    ∃ passage, Enters frame argument passage ∧ passage.Fits frame ∧
      passage.effect frame = effect := by
  obtain ⟨-, passage, way, fits, made⟩ := plan_eq_ok_iff.mp planned
  exact ⟨passage, enters_of_passage way, fits, made⟩

end Frame

end CallFrame
