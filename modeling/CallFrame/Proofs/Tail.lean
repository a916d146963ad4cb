import CallFrame.Align.Lemmas
import CallFrame.Proofs.Extent
import CallFrame.Proofs.Passage

/-!
# Behind the cursor

A put writes between two cursors, the one that it finds and the one that it
leaves.  It starts nothing in front of its cursor, and what it writes ends where
the next argument may start, provided that the encoder is spacious: it moves the
cursor over at least as many bytes as its writer gives a primitive.  Every
encoder that is selected for a platform is spacious, and so is every slotted one.

Two consequences hold along every run.  The bytes in front of a cursor are
settled, which `Frame.Extends` says of an earlier and a later frame, and the
bytes behind it are blank.  Together they tell what one put has left in the frame
at the end of a run: its bytes, and zeros for the rest of its place.
-/

namespace CallFrame

/-! ## Spacious encoders -/

/-- No primitive is wider than a slot of a slotted frame. -/
theorem Primitive.width_le_fixedSlot
    (addressWidth : AddressWidth)
    (value : Primitive) :
    value.width addressWidth ≤ Encoder.fixedSlot := by
  cases addressWidth <;> cases value <;>
    simp [width, AddressWidth.bytes, Encoder.fixedSlot]

theorem Primitive.width_pos
    (addressWidth : AddressWidth)
    (value : Primitive) :
    0 < value.width addressWidth := by
  cases addressWidth <;> cases value <;> simp [width, AddressWidth.bytes]

namespace Encoder

/-- A value does not start in front of the cursor. -/
theorem le_align (encoder : Encoder) (offset alignment : Nat) :
    offset ≤ encoder.align offset alignment := by
  cases encoder with
  | slotted writer layout => exact Nat.le_refl offset
  | aligned writer layout => exact le_alignUp _ _
  | stacked layout => exact Nat.le_refl offset

/-- The bytes of a primitive end at or before the next cursor. -/
def Spacious (encoder : Encoder) : Prop :=
  ∀ (offset : Nat) (value : Primitive),
    encoder.primitiveEnd offset value ≤ encoder.primitiveNext offset value

/-- What is written of a primitive is at most as wide as the primitive. -/
theorem length_stored_le (encoder : Encoder) (value : Primitive) :
    (encoder.stored value).length ≤
      value.width encoder.writer.addressWidth := by
  rw [stored]
  by_cases zero : value = .address 0
  · rw [if_pos zero]
    exact Nat.zero_le _
  · rw [if_neg zero, Writer.length_encode]

theorem spacious_slotted (writer : Writer) (layout : PrimitiveLayout) :
    Spacious (.slotted writer layout) := by
  intro offset value
  exact Nat.add_le_add_left (value.width_le_fixedSlot writer.addressWidth) _

theorem spacious_aligned (platform : Platform) :
    Spacious (.aligned (.ofPlatform platform) platform.layout) := by
  intro offset value
  apply Nat.add_le_add_left
  cases value <;> exact Nat.le_refl _

/-- On the stack an address has four bytes, however wide it is declared. -/
theorem spacious_stacked (platform : Platform) :
    Spacious (.stacked platform.layout) := by
  intro offset value
  apply Nat.add_le_add_left
  cases value with
  | address value => exact Nat.le_max_right _ _
  | _ => exact Nat.le_max_left _ _

theorem spacious_select (platform : Platform) (rawPacking : Bool) :
    (select platform rawPacking).Spacious := by
  cases rawPacking with
  | false => exact spacious_slotted _ _
  | true =>
      by_cases stack : platform.cpu = .i386
      · rw [select_of_stack stack]
        exact spacious_stacked platform
      · rw [select_of_not_stack stack]
        exact spacious_aligned platform

end Encoder

namespace Frame

/-! ## A put stays between its cursors -/

section Between

variable {frame : Frame} {argument : Argument} {effect : Effect}

/-- An effect writes behind a cursor and ends what it writes at the next one. -/
def StaysBetween (frame : Frame) (effect : Effect) : Prop :=
  frame.offset ≤ effect.start ∧
    effect.start + effect.image.length ≤ effect.next

theorem length_readMemory (memory : List UInt8) (size : Nat) :
    (readMemory memory size).length = size := by
  rw [readMemory, List.length_append, List.length_take, List.length_replicate]
  omega

theorem staysBetween_written
    (spacious : frame.encoder.Spacious)
    (value : Primitive) :
    frame.StaysBetween ((Passage.written value).effect frame) := by
  refine ⟨frame.encoder.le_align _ _, ?_⟩
  apply Nat.le_trans _ (spacious frame.offset value)
  exact Nat.add_le_add_left (frame.encoder.length_stored_le value) _

theorem staysBetween_registered
    (spacious : frame.encoder.Spacious)
    (entry : Entry) :
    frame.StaysBetween ((Passage.registered entry).effect frame) := by
  refine ⟨frame.encoder.le_align _ _, ?_⟩
  apply Nat.le_trans _ (spacious frame.offset (.address 0))
  exact Nat.add_le_add_left (Nat.zero_le _) _

theorem staysBetween_longDouble
    {placement : Placement}
    (placed :
      frame.encoder.longDoublePlacement? frame.offset = some placement)
    {bytes : List UInt8}
    (length : bytes.length = frame.encoder.layout.longDouble.size) :
    frame.StaysBetween ((Passage.copied placement bytes).effect frame) := by
  rw [Encoder.longDoublePlacement?] at placed
  split at placed
  · cases placed
    refine ⟨frame.encoder.le_align _ _, ?_⟩
    exact Nat.add_le_add_left (length ▸ le_alignUp _ _) _
  · cases placed

theorem staysBetween_struct
    {placement : Placement}
    {type : NativeType}
    (placed : frame.structPlacement? type = some placement)
    {bytes : List UInt8}
    (length : bytes.length = type.size) :
    frame.StaysBetween ((Passage.copied placement bytes).effect frame) := by
  rw [structPlacement?, Encoder.structPlacement?] at placed
  split at placed
  · split at placed
    · cases placed
      refine ⟨frame.encoder.le_align _ _, ?_⟩
      exact length ▸ le_alignUp _ _
    · cases placed
  · cases placed

/-- A put that succeeds writes between its cursors. -/
theorem staysBetween_of_plan
    (spacious : frame.encoder.Spacious)
    (planned : frame.plan argument = .ok effect) :
    frame.StaysBetween effect := by
  obtain ⟨passage, enters, -, rfl⟩ := exists_enters_of_plan planned
  cases enters with
  | primitive value => exact staysBetween_written spacious value
  | reference referred covered => exact staysBetween_registered spacious _
  | longDouble made placed =>
      exact staysBetween_longDouble placed (LongDoubleSource.length_of_image made)
  | scratch made boxed covered => exact staysBetween_registered spacious _
  | struct declared placed enough =>
      exact staysBetween_struct placed (length_window enough)
  | structReference declared boxed covered =>
      exact staysBetween_registered spacious _
  | structAt declared placed present =>
      exact staysBetween_struct placed (length_readMemory _ _)
  | structAddress declared boxed => exact staysBetween_written spacious _

end Between

/-! ## Settled in front of the cursor -/

/--
A later frame of a run goes on from an earlier one: it is the same frame but for
what was put since then, which is all behind the earlier cursor.
-/
structure Extends (earlier later : Frame) : Prop where
  signature_eq : later.signature = earlier.signature
  encoder_eq : later.encoder = earlier.encoder
  validates_eq : later.validates = earlier.validates
  length_eq : later.bytes.length = earlier.bytes.length
  offset_le : earlier.offset ≤ later.offset
  kept : ∀ index < earlier.offset, later.bytes[index]? = earlier.bytes[index]?

namespace Extends

theorem refl (frame : Frame) : frame.Extends frame where
  signature_eq := rfl
  encoder_eq := rfl
  validates_eq := rfl
  length_eq := rfl
  offset_le := Nat.le_refl _
  kept := fun _ _ => rfl

/-- A put goes on from the frame that it finds. -/
theorem apply
    {earlier later : Frame}
    {argument : Argument}
    {effect : Effect}
    (spacious : earlier.encoder.Spacious)
    (goesOn : earlier.Extends later)
    (planned : later.plan argument = .ok effect) :
    earlier.Extends (effect.apply later) := by
  obtain ⟨behind, ends⟩ :=
    staysBetween_of_plan (goesOn.encoder_eq ▸ spacious) planned
  have inside := fitting_plan argument later effect planned
  constructor
  · exact goesOn.signature_eq
  · exact goesOn.encoder_eq
  · exact goesOn.validates_eq
  · exact (length_bytes_apply planned).trans goesOn.length_eq
  · show earlier.offset ≤ effect.next
    have := goesOn.offset_le
    omega
  · intro index before
    have front : index < effect.start :=
      Nat.lt_of_lt_of_le before (Nat.le_trans goesOn.offset_le behind)
    show (overwrite later.bytes effect.start effect.image)[index]? = _
    rw [getElem?_overwrite_of_outside inside (Or.inl front),
      goesOn.kept index before]

end Extends

/-- A run goes on from the frame that it starts with. -/
theorem extends_run
    {frame : Frame}
    (spacious : frame.encoder.Spacious)
    (arguments : List Argument) :
    frame.Extends (frame.run arguments) :=
  run_preserves (fun goesOn planned => goesOn.apply spacious planned)
    (.refl frame) arguments

/-! ## Blank behind the cursor -/

/-- Every byte behind the cursor is zero. -/
def BlankTail (frame : Frame) : Prop :=
  ∀ index, frame.offset ≤ index → index < frame.bytes.length →
    frame.bytes[index]? = some 0

theorem blankTail_withEncoder
    (signature : Signature)
    (encoder : Encoder)
    (settings : Settings) :
    (withEncoder signature encoder settings).BlankTail := by
  intro index _ inside
  rw [withEncoder, List.length_replicate] at inside
  rw [withEncoder, List.getElem?_replicate_of_lt inside]

theorem BlankTail.apply
    {frame : Frame}
    {argument : Argument}
    {effect : Effect}
    (spacious : frame.encoder.Spacious)
    (blank : frame.BlankTail)
    (planned : frame.plan argument = .ok effect) :
    (effect.apply frame).BlankTail := by
  obtain ⟨behind, ends⟩ := staysBetween_of_plan spacious planned
  have written := fitting_plan argument frame effect planned
  intro index after inside
  have passed : effect.start + effect.image.length ≤ index :=
    Nat.le_trans ends after
  have start : frame.offset ≤ index := by omega
  rw [length_bytes_apply planned] at inside
  show (overwrite frame.bytes effect.start effect.image)[index]? = _
  rw [getElem?_overwrite_of_outside written (Or.inr passed)]
  exact blank index start inside

theorem BlankTail.run
    {frame : Frame}
    (spacious : frame.encoder.Spacious)
    (blank : frame.BlankTail)
    (arguments : List Argument) :
    (frame.run arguments).BlankTail := by
  let Kept (later : Frame) : Prop :=
    later.encoder = frame.encoder ∧ later.BlankTail
  have step
      {later : Frame}
      {argument : Argument}
      {effect : Effect}
      (kept : Kept later)
      (planned : later.plan argument = .ok effect) :
      Kept (effect.apply later) :=
    ⟨kept.1, kept.2.apply (kept.1 ▸ spacious) planned⟩
  exact (run_preserves step ⟨rfl, blank⟩ arguments).2

/-! ## What one put has left -/

/-- What an effect on a frame has left in the frame at the end of a run. -/
structure Leaves (before : Frame) (effect : Effect) (final : Frame) : Prop where
  fits : effect.start + effect.image.length ≤ final.bytes.length
  held : window final.bytes effect.start effect.image.length = effect.image
  blank :
    ∀ index, before.offset ≤ index → index < effect.next →
      index < final.bytes.length →
      (index < effect.start ∨ effect.start + effect.image.length ≤ index) →
      final.bytes[index]? = some 0

/-- An effect does to the bytes of a frame what putting a primitive does. -/
structure Puts (frame : Frame) (effect : Effect) (value : Primitive) : Prop where
  start_eq : effect.start = frame.encoder.primitiveStart frame.offset value
  image_eq : effect.image = frame.encoder.stored value
  next_eq : effect.next = frame.encoder.primitiveNext frame.offset value

theorem puts_written (frame : Frame) (value : Primitive) :
    frame.Puts ((Passage.written value).effect frame) value :=
  ⟨rfl, rfl, rfl⟩

/-- What is registered leaves a zero address. -/
theorem puts_registered (frame : Frame) (entry : Entry) :
    frame.Puts ((Passage.registered entry).effect frame) (.address 0) :=
  ⟨rfl, (if_pos rfl).symm, rfl⟩

/-- A primitive is found where it was put, also a zero that was not written. -/
theorem Leaves.window_eq_encode
    {before final : Frame}
    {effect : Effect}
    {value : Primitive}
    (leaves : before.Leaves effect final)
    (puts : before.Puts effect value)
    (spacious : before.encoder.Spacious)
    (fits :
      before.encoder.primitiveEnd before.offset value ≤ final.bytes.length) :
    window final.bytes (before.encoder.primitiveStart before.offset value)
        (value.width before.encoder.writer.addressWidth) =
      before.encoder.writer.encode value := by
  rw [← Writer.length_encode]
  by_cases zero : value = .address 0
  · subst zero
    have empty : effect.image = [] := puts.image_eq.trans (if_pos rfl)
    rw [before.encoder.writer.encode_zero, List.length_replicate]
    apply window_eq_replicate
    intro index lt
    rw [Writer.length_encode] at lt
    have inside :
        before.encoder.primitiveStart before.offset (.address 0) + index <
          before.encoder.primitiveEnd before.offset (.address 0) :=
      Nat.add_lt_add_left lt _
    apply leaves.blank
    · exact Nat.le_add_right_of_le (before.encoder.le_align _ _)
    · rw [puts.next_eq]
      exact Nat.lt_of_lt_of_le inside (spacious _ _)
    · exact Nat.lt_of_lt_of_le inside fits
    · right
      rw [empty, puts.start_eq]
      exact Nat.le_add_right _ _
  · have whole : effect.image = before.encoder.writer.encode value :=
      puts.image_eq.trans (if_neg zero)
    rw [← puts.start_eq, ← whole]
    exact leaves.held

/-- Each accepted argument has left its bytes, and zeros around them. -/
theorem exists_leaves_of_accepted
    {frame : Frame}
    (spacious : frame.encoder.Spacious)
    (blank : frame.BlankTail)
    {arguments : List Argument}
    {position : Nat}
    {argument : Argument}
    (supplied : (frame.accepted arguments)[position]? = some argument) :
    let before := frame.run ((frame.accepted arguments).take position)
    ∃ effect, before.plan argument = .ok effect ∧
      before.Leaves effect (frame.run arguments) := by
  intro before
  obtain ⟨effect, planned, rest⟩ := exists_plan_of_accepted supplied
  have reached := extends_run spacious ((frame.accepted arguments).take position)
  have goesOn : (effect.apply before).Extends (frame.run arguments) := by
    rw [← rest]
    apply extends_run
    exact reached.encoder_eq ▸ spacious
  have tail : before.BlankTail := blank.run spacious _
  have inside := fitting_plan argument before effect planned
  have length : (frame.run arguments).bytes.length = before.bytes.length :=
    goesOn.length_eq.trans (length_bytes_apply planned)
  obtain ⟨behind, ends⟩ :=
    staysBetween_of_plan (reached.encoder_eq ▸ spacious) planned
  have kept (index : Nat) (front : index < effect.next) :
      (frame.run arguments).bytes[index]? =
        (overwrite before.bytes effect.start effect.image)[index]? :=
    goesOn.kept index front
  refine ⟨effect, planned, length ▸ inside, ?_, ?_⟩
  · apply Eq.trans _ (window_overwrite_self inside)
    apply window_congr
    intro index lt
    exact kept _ (by omega)
  · intro index from_ front lt outside
    rw [kept index front, getElem?_overwrite_of_outside inside outside]
    exact tail index from_ (length ▸ lt)

end Frame

end CallFrame
