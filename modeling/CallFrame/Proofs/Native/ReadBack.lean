import CallFrame.Proofs.Native.Agreement
import CallFrame.Proofs.Native.Extent

/-!
# Reading a native frame back

A callee finds its arguments by the types that it declares.  It reads the value
of a parameter at the extent that these types give, in the byte order of the
frame, and knows nothing of the puts.

This module proves that it finds what was put.  The invariant of a run is
`Packed`: the extent of every argument put so far holds the bytes of that
argument, and every other byte is still zero.  A put fills the next extent,
which is behind all the others, so it disturbs none of them.  A zero address is
not written at all; its extent holds the right bytes because it was blank.
-/

namespace CallFrame

open NativeType (BuiltFor)

/-! ## What a callee reads -/

/--
An argument for a parameter of a type is read back from an extent: a primitive
as its number, a `long double` as the bytes of its encoding, a struct that is
copied as the window of its source, and everything else as an address, which is
zero unless the argument is the address itself.
-/
def Argument.ReadsBack
    (argument : Argument)
    (encoder : Encoder)
    (type : NativeType)
    (bytes : List UInt8)
    (extent : Extent) :
    Prop :=
  match argument with
  | .primitive value => encoder.Reads bytes extent value
  | .longDouble source =>
    ∃ stored,
      readAt bytes extent.start extent.width = .ok stored ∧
        ∀ destination : List UInt8, destination.length = type.size →
          source.encode encoder.layout.longDoubleFormat encoder.byteOrder
            destination = .ok () stored
  | .array _ _ _ _ | .directBuffer _ _ _ | .object _ _ _ _ | .environment
  | .handle _ => encoder.Reads bytes extent (.address 0)
  | .struct source offset =>
    if type.kind = .struct then
      ∃ stored,
        readAt source offset type.size = .ok stored ∧
          readAt bytes extent.start extent.width = .ok stored
    else
      encoder.Reads bytes extent (.address 0)
  | .structAt address memory =>
    if type.kind = .struct then
      readAt bytes extent.start extent.width =
        .ok (Frame.readMemory memory type.size)
    else
      encoder.Reads bytes extent (.address address)

section Reading

variable {platform : Platform} {encoder : Encoder} {type : NativeType}
variable {bytes : List UInt8} {extent : Extent}

/-- Whatever fills its extent is read back from it. -/
theorem Argument.readsBack_of_window
    {argument : Argument}
    {index : Nat}
    (native : encoder.NativeFor platform)
    (built : BuiltFor platform type)
    (accepted : argument.suppliedKind.accepts type = true)
    (sound : argument.defect? type index = none)
    (width : (argument.image encoder type).length = extent.width)
    (inside : extent.finish ≤ bytes.length)
    (held :
      window bytes extent.start extent.width = argument.image encoder type) :
    argument.ReadsBack encoder type bytes extent := by
  have taken :
      readAt bytes extent.start extent.width =
        .ok (argument.image encoder type) := by
    rw [Extent.readAt_of_finish_le inside, held]
  cases argument with
  | primitive value => exact Encoder.reads_of_window width inside held
  | longDouble source =>
      have kind := kind_of_accepts_longDouble accepted
      obtain ⟨stored, encoded⟩ :=
        Frame.exists_image_of_sound native built kind sound
      rw [image, encoded] at taken
      refine ⟨stored, taken, ?_⟩
      intro destination length
      rw [source.encode_settles _ _ destination]
      dsimp only
      rw [length, encoded]
      rfl
  | array | directBuffer | object | environment | handle =>
      exact Encoder.reads_of_window width inside held
  | struct source offset =>
      rw [image] at width held taken
      rw [ReadsBack]
      by_cases kind : type.kind = .struct
      · rw [if_pos kind] at taken ⊢
        exact ⟨_, if_pos (add_size_le_of_sound sound), taken⟩
      · rw [if_neg kind] at width held ⊢
        exact Encoder.reads_of_window width inside held
  | structAt address memory =>
      rw [image] at width held taken
      rw [ReadsBack]
      by_cases kind : type.kind = .struct
      · rw [if_pos kind] at taken ⊢
        exact taken
      · rw [if_neg kind] at width held ⊢
        exact Encoder.reads_of_window width inside held

end Reading

/-! ## The invariant -/

namespace Frame

/-- A frame on track in which the extents hold what was put. -/
structure Packed
    (signature : Signature)
    (done : List Argument)
    (frame : Frame) :
    Prop extends OnTrack signature done frame where
  filled :
    ∀ (position : Nat) (type : NativeType) (argument : Argument)
      (extent : Extent),
      signature.parameters[position]? = some type →
      done[position]? = some argument →
      (frame.encoder.extents signature.parameters)[position]? = some extent →
      argument.suppliedKind.accepts type = true ∧
        argument.defect? type position = none ∧
        window frame.bytes extent.start extent.width =
          argument.image frame.encoder type
  blank :
    ∀ index < frame.bytes.length,
      (∀ extent ∈
          (frame.encoder.extents signature.parameters).take done.length,
        ¬ extent.Covers index) →
      frame.bytes[index]? = some 0

section Step

variable {signature : Signature} {done : List Argument} {frame : Frame}
variable {argument : Argument} {effect : Effect}

theorem packed_withEncoder
    (signature : Signature)
    {settings : Settings}
    (validating : settings.validation = true) :
    Packed signature []
      (withEncoder signature (.select signature.platform true) settings) where
  toOnTrack := onTrack_withEncoder signature validating
  filled := by
    rintro position type argument extent - ⟨⟩
  blank := by
    intro index inside uncovered
    rw [withEncoder, List.length_replicate] at inside
    rw [withEncoder, List.getElem?_replicate_of_lt inside]

/-- The extents of a packed frame are inside its bytes. -/
theorem Packed.finish_le_length
    (packed : Packed signature done frame)
    (built : ∀ type ∈ signature.parameters, BuiltFor signature.platform type)
    {extent : Extent}
    (member : extent ∈ frame.encoder.extents signature.parameters) :
    extent.finish ≤ frame.bytes.length := by
  rw [← packed.frameSize_eq]
  exact packed.nativeFor.finish_le_frameSize built member

/-- No extent of an earlier argument reaches into the next one. -/
theorem Packed.window_eq_replicate
    (packed : Packed signature done frame)
    (built : ∀ type ∈ signature.parameters, BuiltFor signature.platform type)
    {extent : Extent}
    (known :
      (frame.encoder.extents signature.parameters)[done.length]? =
        some extent)
    (inside : extent.finish ≤ frame.bytes.length) :
    window frame.bytes extent.start extent.width =
      List.replicate extent.width 0 := by
  apply CallFrame.window_eq_replicate
  intro index lt
  apply packed.blank
  · exact Nat.lt_of_lt_of_le (Nat.add_lt_add_left lt _) inside
  · intro earlier member covered
    obtain ⟨position, before, knownEarlier⟩ :=
      Extent.getElem?_of_mem_take member
    have order :=
      packed.nativeFor.finish_le_start built before knownEarlier known
    have reached := Nat.lt_of_lt_of_le covered.2 order
    exact Nat.not_lt.mpr (Nat.le_add_right _ _) reached

/-- A put to a blank extent leaves the bytes of its argument there. -/
theorem bytes_apply_of_fills
    {extent : Extent}
    {image : List UInt8}
    {next : Nat}
    (fills : effect.Fills extent.start image next)
    (width : image.length = extent.width)
    (blank :
      window frame.bytes extent.start extent.width =
        List.replicate extent.width 0) :
    (effect.apply frame).bytes = overwrite frame.bytes extent.start image := by
  show overwrite frame.bytes effect.start effect.image = _
  rw [fills.start_eq]
  rcases fills.image_eq with equal | ⟨empty, zeros⟩
  · rw [equal]
  · rw [empty, overwrite_nil, zeros, width, ← blank, overwrite_window]

/-- A successful put fills the extent of the next parameter. -/
theorem Packed.overwrites
    (packed : Packed signature done frame)
    (built : ∀ type ∈ signature.parameters, BuiltFor signature.platform type)
    (planned : frame.plan argument = .ok effect) :
    ∃ type extent,
      signature.parameters[done.length]? = some type ∧
        (frame.encoder.extents signature.parameters)[done.length]? =
          some extent ∧
        argument.suppliedKind.accepts type = true ∧
        argument.defect? type done.length = none ∧
        (argument.image frame.encoder type).length = extent.width ∧
        extent.finish ≤ frame.bytes.length ∧
        (effect.apply frame).bytes =
          overwrite frame.bytes extent.start
            (argument.image frame.encoder type) := by
  obtain ⟨type, declared, accepted, sound, fills⟩ :=
    packed.fills_of_plan built planned
  have native := packed.nativeFor
  have member : type ∈ signature.parameters := List.mem_of_getElem? declared
  have width := argument.length_image native (built type member) accepted sound
  rw [packed.offset_eq] at fills
  rw [packed.index_eq] at declared sound fills
  have known :
      (frame.encoder.extents signature.parameters)[done.length]? =
        some (frame.encoder.extentAt
          (frame.encoder.offsetBefore signature.parameters done.length) type) :=
    Encoder.extents_of_declared declared
  have inside := packed.finish_le_length built (List.mem_of_getElem? known)
  have blank := packed.window_eq_replicate built known inside
  exact ⟨type, _, declared, known, accepted, sound, width, inside,
    bytes_apply_of_fills fills width blank⟩

/-- A successful put keeps a frame packed. -/
theorem Packed.apply
    (packed : Packed signature done frame)
    (built : ∀ type ∈ signature.parameters, BuiltFor signature.platform type)
    (planned : frame.plan argument = .ok effect) :
    Packed signature (done ++ [argument]) (effect.apply frame) := by
  have native := packed.nativeFor
  obtain ⟨type, extent, declared, known, accepted, sound, width, inside,
    bytes⟩ := packed.overwrites built planned
  have fits :
      extent.start + (argument.image frame.encoder type).length ≤
        frame.bytes.length :=
    width ▸ inside
  constructor
  · exact packed.toOnTrack.apply built planned
  · intro position other supplied place otherDeclared put otherKnown
    rw [bytes]
    by_cases before : position < done.length
    · rw [List.getElem?_append_left before] at put
      have order := native.finish_le_start built before otherKnown known
      rw [window_overwrite_of_disjoint fits (Or.inl order)]
      exact packed.filled position other supplied place otherDeclared put
        otherKnown
    · have last : position = done.length := by
        have bound := (List.getElem?_eq_some_iff.mp put).1
        rw [List.length_append, List.length_singleton] at bound
        omega
      subst last
      rw [List.getElem?_concat_length] at put
      cases put
      cases declared.symm.trans otherDeclared
      cases known.symm.trans otherKnown
      rw [← width, window_overwrite_self fits]
      exact ⟨accepted, sound, rfl⟩
  · intro index lt uncovered
    rw [List.length_append, List.length_singleton, List.take_add_one] at uncovered
    have outside : ¬ extent.Covers index := by
      apply uncovered
      apply List.mem_append_right
      rw [Option.mem_toList]
      exact known
    rw [bytes, length_overwrite fits] at lt
    rw [bytes, getElem?_overwrite_of_outside fits]
    · apply packed.blank index lt
      intro earlier member
      exact uncovered earlier (List.mem_append_left _ member)
    · rw [width]
      by_contra reached
      push Not at reached
      exact outside reached

/-- Every argument of a packed frame is read back at its extent. -/
theorem Packed.readsBack
    (packed : Packed signature done frame)
    (built : ∀ type ∈ signature.parameters, BuiltFor signature.platform type)
    {position : Nat}
    {type : NativeType}
    {extent : Extent}
    (declared : signature.parameters[position]? = some type)
    (known :
      (frame.encoder.extents signature.parameters)[position]? = some extent)
    (put : done[position]? = some argument) :
    argument.ReadsBack frame.encoder type frame.bytes extent := by
  have native := packed.nativeFor
  have builtFor := built type (List.mem_of_getElem? declared)
  obtain ⟨accepted, sound, held⟩ :=
    packed.filled position type argument extent declared put known
  have width : (argument.image frame.encoder type).length = extent.width := by
    cases known.symm.trans (Encoder.extents_of_declared declared)
    exact argument.length_image native builtFor accepted sound
  have inside := packed.finish_le_length built (List.mem_of_getElem? known)
  exact argument.readsBack_of_window native builtFor accepted sound width
    inside held

end Step

/-- A run of puts keeps a frame packed. -/
theorem packed_run
    {signature : Signature}
    (built : ∀ type ∈ signature.parameters, BuiltFor signature.platform type)
    {settings : Settings}
    (validating : settings.validation = true)
    (arguments : List Argument) :
    let start :=
      withEncoder signature (.select signature.platform true) settings
    Packed signature (start.accepted arguments) (start.run arguments) :=
  run_induction (fun packed planned => packed.apply built planned)
    (packed_withEncoder signature validating) arguments

/-- In front of an accepted argument the cursor is where the walk says. -/
theorem offset_run_take
    {signature : Signature}
    (built : ∀ type ∈ signature.parameters, BuiltFor signature.platform type)
    {settings : Settings}
    (validating : settings.validation = true)
    (arguments : List Argument)
    {position : Nat} :
    let encoder := Encoder.select signature.platform true
    let start := withEncoder signature encoder settings
    let puts := start.accepted arguments
    position ≤ puts.length →
      (start.run (puts.take position)).offset =
        encoder.offsetBefore signature.parameters position := by
  intro encoder start puts inside
  have track := onTrack_run built validating (puts.take position)
  have count :
      (start.run (puts.take position)).index = position := by
    rw [track.index_eq, accepted_take, List.length_take]
    exact Nat.min_eq_left inside
  rw [track.offset_eq, track.native, count]

/-! ## Reading back -/

/--
On a validating frame for the native layout of a platform, packed with types
that are built for it, every accepted argument is read back at the extent of its
parameter.  The extents are known from the types alone; they are in order, do
not overlap and are inside the frame.  An extent starts at a multiple of the
alignment of its type and of the slot width, but on the stack of 32-bit x86 it
starts at the cursor.  Every byte that no accepted argument takes is zero.
-/
theorem native_puts_read_back
    {signature : Signature}
    (built : ∀ type ∈ signature.parameters, BuiltFor signature.platform type)
    {settings : Settings}
    (validating : settings.validation = true)
    (arguments : List Argument) :
    let encoder := Encoder.select signature.platform true
    let start := withEncoder signature encoder settings
    let puts := start.accepted arguments
    let frame := start.run arguments
    let extents := encoder.extents signature.parameters
    puts.length ≤ extents.length ∧
      (extents.Pairwise fun earlier later => earlier.finish ≤ later.start) ∧
      (∀ extent ∈ extents, extent.finish ≤ frame.bytes.length) ∧
      (∀ position type extent argument,
        signature.parameters[position]? = some type →
        extents[position]? = some extent →
        puts[position]? = some argument →
        (signature.platform.cpu ≠ .i386 →
          max type.alignment encoder.slotSize ∣ extent.start) ∧
        (signature.platform.cpu = .i386 →
          extent.start = (start.run (puts.take position)).offset) ∧
        argument.ReadsBack encoder type frame.bytes extent) ∧
      ∀ index < frame.bytes.length,
        (∀ extent ∈ extents.take puts.length, ¬ extent.Covers index) →
        frame.bytes[index]? = some 0 := by
  intro encoder start puts frame extents
  have packed : Packed signature puts frame :=
    packed_run built validating arguments
  have native : encoder.NativeFor signature.platform :=
    Encoder.nativeFor_select signature.platform
  have chosen : frame.encoder = encoder := packed.native
  refine ⟨?_, native.pairwise_extents built, ?_, ?_, ?_⟩
  · rw [Encoder.length_extents, ← packed.index_eq]
    exact packed.index_le
  · intro extent member
    apply packed.finish_le_length built
    rw [chosen]
    exact member
  · intro position type extent argument declared known put
    have builtFor := built type (List.mem_of_getElem? declared)
    have place :
        extent = encoder.extentAt
          (encoder.offsetBefore signature.parameters position) type :=
      Option.some.inj (known.symm.trans (Encoder.extents_of_declared declared))
    refine ⟨?_, ?_, ?_⟩
    · intro notStack
      rw [place]
      exact Encoder.dvd_start_of_cpu_ne notStack
        builtFor.isPowerOfTwo_alignment _
    · intro stack
      have before : position < puts.length :=
        (List.getElem?_eq_some_iff.mp put).1
      rw [offset_run_take built validating arguments (Nat.le_of_lt before),
        place]
      exact Encoder.start_of_cpu_eq stack type _
    · rw [← chosen]
      apply packed.readsBack built declared _ put
      rw [chosen]
      exact known
  · intro index lt uncovered
    apply packed.blank index lt
    rw [chosen]
    exact uncovered

theorem mixedFrame_reads_back :
    (Argument.struct [1, 2, 3, 4, 5, 6, 7, 8] 1).ReadsBack
        (.select mixedSignature.platform true) ⟨.struct, 6, 2⟩
        (mixedFrame.run mixedArguments).bytes ⟨20, 6⟩ ∧
      (mixedFrame.run mixedArguments).bytes[27]? = some 0 := by
  have strict : Settings.strict.validation = true := rfl
  have whole :=
    native_puts_read_back builtFor_mixedSignature strict mixedArguments
  constructor
  · exact (whole.2.2.2.1 2 _ _ _ rfl rfl rfl).2.2
  · exact whole.2.2.2.2 27 (by decide +kernel) (by decide +kernel)

end Frame

end CallFrame
