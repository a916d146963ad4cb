import CallFrame.Proofs.Native.Put

/-!
# Frame size and puts agree

The size of a native frame is measured before anything is put, from the types
of the signature.  The puts never see that measure: each of them moves the
cursor by rules of its own.  This module proves that the two keep in step.

The invariant of a run is `OnTrack`: after a number of successful puts the
index is that number, the cursor is where the walk over as many types is, and
the frame still has the size that was measured.  Since the place of the next
parameter is then inside the frame, a put that the signature admits can only
fail for a defect of its own argument.
-/

namespace CallFrame.Frame

open NativeType (BuiltFor)

/-- A frame that validates, on the walk over the types of its signature. -/
structure OnTrack
    (signature : Signature)
    (done : List Argument)
    (frame : Frame) :
    Prop where
  signature_eq : frame.signature = signature
  native : frame.encoder = .select signature.platform true
  validates : frame.validates = true
  length_eq : frame.bytes.length = signature.rawSize
  index_eq : frame.index = done.length
  index_le : frame.index ≤ signature.parameterCount
  offset_eq :
    frame.offset =
      frame.encoder.offsetBefore signature.parameters frame.index

section Step

variable {signature : Signature} {done : List Argument} {frame : Frame}
variable {argument : Argument} {type : NativeType} {effect : Effect}

/-- The empty frame is on track. -/
theorem onTrack_withEncoder
    (signature : Signature)
    {settings : Settings}
    (validating : settings.validation = true) :
    OnTrack signature []
      (withEncoder signature (.select signature.platform true) settings) where
  signature_eq := rfl
  native := rfl
  validates := validating
  length_eq := by
    have native := Encoder.nativeFor_select signature.platform
    rw [withEncoder, List.length_replicate, Encoder.bufferSize,
      if_pos native.isRaw_eq]
  index_eq := rfl
  index_le := Nat.zero_le _
  offset_eq := rfl

theorem OnTrack.nativeFor (track : OnTrack signature done frame) :
    frame.encoder.NativeFor signature.platform := by
  rw [track.native]
  exact Encoder.nativeFor_select signature.platform

theorem OnTrack.frameSize_eq (track : OnTrack signature done frame) :
    frame.encoder.frameSize signature.parameters = frame.bytes.length := by
  rw [track.length_eq, track.native]
  rfl

/-- The next parameter is known, and its place is inside the frame. -/
theorem OnTrack.planUnchecked
    (track : OnTrack signature done frame)
    (built : ∀ type ∈ signature.parameters, BuiltFor signature.platform type)
    (declared : signature.parameterType? frame.index = some type)
    (accepted : argument.suppliedKind.accepts type = true) :
    Effect.Outcome (frame.planUnchecked argument)
      (argument.defect? type frame.index)
      (frame.encoder.align frame.offset type.alignment)
      (argument.image frame.encoder type)
      (frame.encoder.offsetAfter frame.offset type) := by
  have native := track.nativeFor
  have member : type ∈ signature.parameters := List.mem_of_getElem? declared
  apply planUnchecked_of_room native (built type member)
  · rw [track.signature_eq]
    exact declared
  · exact accepted
  · rw [track.offset_eq]
    exact native.ready_offsetBefore built frame.index
  · rw [track.offset_eq, ← Encoder.offsetBefore_succ declared,
      ← track.frameSize_eq]
    exact frame.encoder.offsetBefore_le_frameSize _ (frame.index + 1)

/-- A frame on track plans what its signature admits without a check. -/
theorem OnTrack.plan_eq
    (track : OnTrack signature done frame)
    (declared : signature.parameterType? frame.index = some type)
    (accepted : argument.suppliedKind.accepts type = true) :
    frame.plan argument = frame.planUnchecked argument := by
  have admitted : frame.refusal? argument.suppliedKind = none := by
    rw [refusal?, if_pos track.validates, track.signature_eq, declared]
    exact if_pos accepted
  rw [plan, admitted]

/-- A put succeeds only for a parameter that takes its argument. -/
theorem OnTrack.declared_of_plan
    (track : OnTrack signature done frame)
    (planned : frame.plan argument = .ok effect) :
    ∃ type, signature.parameterType? frame.index = some type ∧
      argument.suppliedKind.accepts type = true ∧
      frame.planUnchecked argument = .ok effect := by
  rw [plan, refusal?, if_pos track.validates, track.signature_eq] at planned
  cases declared : signature.parameterType? frame.index with
  | none =>
      rw [declared] at planned
      cases planned
  | some type =>
      rw [declared] at planned
      dsimp only at planned
      by_cases accepted : argument.suppliedKind.accepts type = true
      · rw [if_pos accepted] at planned
        exact ⟨type, rfl, accepted, planned⟩
      · rw [if_neg accepted] at planned
        cases planned

/-- What a successful put does to a frame on track. -/
theorem OnTrack.fills_of_plan
    (track : OnTrack signature done frame)
    (built : ∀ type ∈ signature.parameters, BuiltFor signature.platform type)
    (planned : frame.plan argument = .ok effect) :
    ∃ type, signature.parameterType? frame.index = some type ∧
      argument.suppliedKind.accepts type = true ∧
      argument.defect? type frame.index = none ∧
      effect.Fills (frame.encoder.align frame.offset type.alignment)
        (argument.image frame.encoder type)
        (frame.encoder.offsetAfter frame.offset type) := by
  obtain ⟨type, declared, accepted, unchecked⟩ := track.declared_of_plan planned
  have outcome := track.planUnchecked built declared accepted
  rw [unchecked] at outcome
  refine ⟨type, declared, accepted, ?_⟩
  cases wrong : argument.defect? type frame.index with
  | some error =>
      rw [wrong] at outcome
      cases outcome
  | none =>
      rw [wrong] at outcome
      obtain ⟨found, equal, fills⟩ := outcome
      cases equal
      exact ⟨rfl, fills⟩

/-- A successful put keeps a frame on track. -/
theorem OnTrack.apply
    (track : OnTrack signature done frame)
    (built : ∀ type ∈ signature.parameters, BuiltFor signature.platform type)
    (planned : frame.plan argument = .ok effect) :
    OnTrack signature (done ++ [argument]) (effect.apply frame) := by
  obtain ⟨type, declared, -, -, fills⟩ := track.fills_of_plan built planned
  have next : effect.next = frame.encoder.offsetAfter frame.offset type :=
    fills.next_eq
  constructor
  · exact track.signature_eq
  · exact track.native
  · exact track.validates
  · rw [length_bytes_apply planned, track.length_eq]
  · show frame.index + 1 = (done ++ [argument]).length
    rw [track.index_eq, List.length_append, List.length_singleton]
  · exact (List.getElem?_eq_some_iff.mp declared).1
  · show effect.next = frame.encoder.offsetBefore signature.parameters
      (frame.index + 1)
    rw [next, Encoder.offsetBefore_succ declared, ← track.offset_eq]

end Step

/-- A run of puts stays on track. -/
theorem onTrack_run
    {signature : Signature}
    (built : ∀ type ∈ signature.parameters, BuiltFor signature.platform type)
    {settings : Settings}
    (validating : settings.validation = true)
    (arguments : List Argument) :
    let start :=
      withEncoder signature (.select signature.platform true) settings
    OnTrack signature (start.accepted arguments) (start.run arguments) :=
  run_induction (fun track planned => track.apply built planned)
    (onTrack_withEncoder signature validating) arguments

/-! ## The agreement -/

/--
On a validating frame for the native layout of a platform, packed with types
that are built for it, the cursor after `k` successful puts is the one that the
walk over the first `k` types reaches.  A put of an argument that the next
parameter takes fails exactly for a defect of that argument, so never for lack
of room.  Once all parameters are put, rounding the cursor up to a slot gives
the measured size, which is the length of the frame.
-/
theorem native_puts_agree_with_size
    {signature : Signature}
    (built : ∀ type ∈ signature.parameters, BuiltFor signature.platform type)
    {settings : Settings}
    (validating : settings.validation = true)
    (arguments : List Argument) :
    let encoder := Encoder.select signature.platform true
    let start := withEncoder signature encoder settings
    let frame := start.run arguments
    frame.index = (start.accepted arguments).length ∧
      frame.index ≤ signature.parameterCount ∧
      frame.offset =
        (signature.parameters.take frame.index).foldl encoder.offsetAfter 0 ∧
      frame.bytes.length = signature.rawSize ∧
      (∀ type argument,
        signature.parameterType? frame.index = some type →
        argument.suppliedKind.accepts type = true →
        (put argument).error? frame = argument.defect? type frame.index) ∧
      (frame.index = signature.parameterCount →
        alignUp frame.offset encoder.slotSize = signature.rawSize) := by
  intro encoder start frame
  have track : OnTrack signature (start.accepted arguments) frame :=
    onTrack_run built validating arguments
  have native : frame.encoder = encoder := track.native
  have offset :
      frame.offset =
        (signature.parameters.take frame.index).foldl encoder.offsetAfter 0 := by
    rw [track.offset_eq, native]
    rfl
  refine ⟨track.index_eq, track.index_le, offset, track.length_eq, ?_, ?_⟩
  · intro type argument declared accepted
    have outcome := track.planUnchecked built declared accepted
    rw [error?_put, track.plan_eq declared accepted]
    cases wrong : argument.defect? type frame.index with
    | some error =>
        rw [wrong] at outcome
        rw [outcome]
    | none =>
        rw [wrong] at outcome
        obtain ⟨effect, planned, -⟩ := outcome
        rw [planned]
  · intro complete
    have whole :
        signature.parameters.take frame.index = signature.parameters := by
      rw [complete, Signature.parameterCount, List.take_length]
    rw [offset, whole]
    rfl

theorem builtFor_mixedSignature :
    ∀ type ∈ mixedSignature.parameters,
      BuiltFor mixedSignature.platform type := by
  intro type member
  simp only [mixedSignature, List.mem_cons, List.not_mem_nil, or_false] at member
  rcases member with rfl | rfl | rfl | rfl
  · exact @BuiltFor.primitive _ .sint8 _ rfl
  · exact @BuiltFor.primitive _ .longDouble _ rfl
  · exact .aggregate 6 2 ⟨1, rfl⟩
  · exact @BuiltFor.primitive _ .pointer _ rfl

theorem mixedFrame_agrees_with_size :
    (put (.longDouble (.text "1.5x"))).error?
          (mixedFrame.run [.primitive (.byte (-2))]) =
        some (.notDecimal "1.5x") ∧
      alignUp (mixedFrame.run mixedArguments).offset Encoder.stackSlot =
        mixedSignature.rawSize := by
  constructor
  · exact (native_puts_agree_with_size builtFor_mixedSignature rfl
      [.primitive (.byte (-2))]).2.2.2.2.1 ⟨.longDouble, 16, 16⟩ _ rfl rfl
  · exact (native_puts_agree_with_size builtFor_mixedSignature rfl
      mixedArguments).2.2.2.2.2 rfl

end CallFrame.Frame
