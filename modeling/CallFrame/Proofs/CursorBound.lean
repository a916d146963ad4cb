import CallFrame.Proofs.Native.Cursor
import CallFrame.Proofs.Slots

/-!
# The bound of the cursor

A put checks that the bytes it writes are inside the frame, and then it moves the
cursor by a width that was found in another way.  Whether the cursor stays in the
frame is therefore a matter of how the two widths compare.

A slotted frame has whole slots, and a put takes one of them.  An aligned frame
moves the cursor over the bytes that were checked.  On the stack of 32-bit x86
the cursor and the length of the frame are multiples of four bytes, so that a
byte which fits leaves room for its slot.  Only an address does not keep to that:
it is written as four bytes, but the cursor moves over the width that the
platform gives to addresses.  With addresses of 64 bits the cursor can pass the
end, by one slot and never by more.
-/

namespace CallFrame

open Encoder (fixedSlot stackSlot)

/--
A signature whose frame can be left: an address on the stack takes fewer bytes
than the cursor moves, and the frame has room for one.
-/
def Signature.Overhangs (signature : Signature) (rawPacking : Bool) : Prop :=
  rawPacking = true ∧ signature.platform.cpu = .i386 ∧
    signature.platform.addressWidth = .w64 ∧ signature.rawSize ≠ 0

namespace Frame

variable {platform : Platform} {frame : Frame}
variable {argument : Argument} {effect : Effect} {value : Primitive}

/-! ## What moves the cursor -/

/-- A put moves the cursor as a primitive does, or to a checked placement. -/
theorem puts_or_reserved_of_plan
    (planned : frame.plan argument = .ok effect) :
    (∃ value, frame.Puts effect value ∧
        frame.encoder.primitiveEnd frame.offset value ≤ frame.bytes.length) ∨
      effect.next ≤ frame.bytes.length := by
  obtain ⟨passage, -, fits, rfl⟩ := exists_enters_of_plan planned
  cases passage with
  | written value => exact Or.inl ⟨value, frame.puts_written value, fits⟩
  | registered entry =>
      exact Or.inl ⟨.address 0, frame.puts_registered entry, fits⟩
  | copied placement source => exact Or.inr fits.1

/-! ## Aligned frames -/

/-- An aligned frame moves the cursor over exactly the bytes of a primitive. -/
theorem primitiveNext_aligned (platform : Platform) (offset : Nat) :
    Encoder.primitiveNext (.aligned (.ofPlatform platform) platform.layout)
        offset value =
      Encoder.primitiveEnd (.aligned (.ofPlatform platform) platform.layout)
        offset value := by
  cases value <;> rfl

theorem next_le_of_aligned
    (aligned :
      frame.encoder = .aligned (.ofPlatform platform) platform.layout)
    (planned : frame.plan argument = .ok effect) :
    effect.next ≤ frame.bytes.length := by
  rcases puts_or_reserved_of_plan planned with ⟨value, puts, fits⟩ | reserved
  · rw [puts.next_eq, aligned, primitiveNext_aligned, ← aligned]
    exact fits
  · exact reserved

/-- Along a run the cursor stays inside an aligned frame. -/
theorem offset_le_of_aligned
    (aligned :
      frame.encoder = .aligned (.ofPlatform platform) platform.layout)
    (inside : frame.offset ≤ frame.bytes.length)
    (arguments : List Argument) :
    (frame.run arguments).offset ≤ (frame.run arguments).bytes.length := by
  let Inside (current : Frame) : Prop :=
    current.encoder = .aligned (.ofPlatform platform) platform.layout ∧
      current.offset ≤ current.bytes.length
  have step
      {current : Frame}
      {argument : Argument}
      {effect : Effect}
      (kept : Inside current)
      (planned : current.plan argument = .ok effect) :
      Inside (effect.apply current) := by
    refine ⟨kept.1, ?_⟩
    rw [length_bytes_apply planned]
    exact next_le_of_aligned kept.1 planned
  exact (run_preserves step ⟨aligned, inside⟩ arguments).2

/-! ## The stack -/

/-- A frame on the stack, whose cursor is at a slot and at most one too far. -/
structure OnStack (platform : Platform) (frame : Frame) : Prop where
  stacked : frame.encoder = .stacked platform.layout
  slot_dvd_offset : stackSlot ∣ frame.offset
  slot_dvd_length : stackSlot ∣ frame.bytes.length
  bound :
    frame.offset ≤ frame.bytes.length ∨
      platform.addressWidth = .w64 ∧ frame.bytes.length ≠ 0 ∧
        frame.offset = frame.bytes.length + stackSlot

/-- On the stack a primitive takes one slot or two. -/
theorem slot_dvd_stackWidth (platform : Platform) (value : Primitive) :
    stackSlot ∣ max (platform.layout.ofPrimitive value).size stackSlot := by
  cases value with
  | byte value => exact ⟨1, rfl⟩
  | short value => exact ⟨1, rfl⟩
  | int value => exact ⟨1, rfl⟩
  | long value => exact ⟨2, rfl⟩
  | float pattern => exact ⟨1, rfl⟩
  | double pattern => exact ⟨2, rfl⟩
  | address value =>
      show stackSlot ∣ max platform.addressWidth.bytes stackSlot
      cases platform.addressWidth with
      | w32 => exact ⟨1, rfl⟩
      | w64 => exact ⟨2, rfl⟩

theorem slot_dvd_primitiveNext
    (platform : Platform)
    {offset : Nat}
    (slot : stackSlot ∣ offset)
    (value : Primitive) :
    stackSlot ∣
      Encoder.primitiveNext (.stacked platform.layout) offset value :=
  (Nat.dvd_add_right slot).mpr (slot_dvd_stackWidth platform value)

/-- On the stack the cursor moves over whole slots. -/
theorem slot_dvd_next
    (stacked : frame.encoder = .stacked platform.layout)
    (slot : stackSlot ∣ frame.offset)
    (planned : frame.plan argument = .ok effect) :
    stackSlot ∣ effect.next := by
  have power : stackSlot.isPowerOfTwo := ⟨2, rfl⟩
  obtain ⟨passage, enters, -, rfl⟩ := exists_enters_of_plan planned
  have written (value : Primitive) :
      stackSlot ∣ frame.encoder.primitiveNext frame.offset value := by
    rw [stacked]
    exact slot_dvd_primitiveNext platform slot value
  have struct
      {type : NativeType}
      {placement : Placement}
      (placed : frame.structPlacement? type = some placement) :
      stackSlot ∣ placement.next := by
    rw [structPlacement?, stacked] at placed
    split at placed
    · cases placed
      exact dvd_alignUp power
    · cases placed
  cases enters with
  | primitive value => exact written value
  | reference referred covered => exact written (.address 0)
  | longDouble made placed =>
      rw [stacked] at placed
      cases placed
      exact (Nat.dvd_add_right slot).mpr (dvd_alignUp power)
  | scratch made boxed covered => exact written (.address 0)
  | struct declared placed enough => exact struct placed
  | structReference declared boxed covered => exact written (.address 0)
  | structAt declared placed present => exact struct placed
  | structAddress declared boxed => exact written _

/-- On the stack the cursor moves over the bytes of a primitive, in slots. -/
theorem stackWidth_cases (platform : Platform) (value : Primitive) :
    let moved := max (platform.layout.ofPrimitive value).size stackSlot
    moved = max (value.width .w32) stackSlot ∨
      platform.addressWidth = .w64 ∧ value.width .w32 = stackSlot ∧
        moved = stackSlot + stackSlot := by
  intro moved
  cases value with
  | address value =>
      have size : moved = max platform.addressWidth.bytes stackSlot := rfl
      cases wide : platform.addressWidth with
      | w32 =>
          rw [size, wide]
          exact Or.inl rfl
      | w64 =>
          rw [size, wide]
          exact Or.inr ⟨rfl, rfl, rfl⟩
  | _ => exact Or.inl rfl

/--
A primitive that fits the stack moves the cursor to the end of the frame at most,
unless it is an address of 64 bits, which moves it past the end by one slot.
-/
theorem primitiveNext_le_of_fits
    {offset length : Nat}
    (slot : stackSlot ∣ offset)
    (slots : stackSlot ∣ length)
    (fits :
      Encoder.primitiveEnd (.stacked platform.layout) offset value ≤ length) :
    Encoder.primitiveNext (.stacked platform.layout) offset value ≤ length ∨
      platform.addressWidth = .w64 ∧ length ≠ 0 ∧
        Encoder.primitiveNext (.stacked platform.layout) offset value =
          length + stackSlot := by
  have wide := value.width_pos .w32
  have moved := stackWidth_cases platform value
  replace fits : offset + value.width .w32 ≤ length := fits
  show offset + max (platform.layout.ofPrimitive value).size stackSlot ≤ _ ∨
    _ ∧ _ ∧ offset + max (platform.layout.ofPrimitive value).size stackSlot = _
  rw [stackSlot] at slot slots moved ⊢
  dsimp only at moved
  rcases moved with equal | ⟨address, width, equal⟩
  · rw [equal]
    omega
  · rw [equal]
    have passed :
        offset + (4 + 4) ≤ length ∨
          length ≠ 0 ∧ offset + (4 + 4) = length + 4 := by
      omega
    exact passed.imp_right fun past => ⟨address, past⟩

theorem OnStack.apply
    (onStack : OnStack platform frame)
    (planned : frame.plan argument = .ok effect) :
    OnStack platform (effect.apply frame) := by
  have length := length_bytes_apply planned
  constructor
  · exact onStack.stacked
  · exact slot_dvd_next onStack.stacked onStack.slot_dvd_offset planned
  · rw [length]
    exact onStack.slot_dvd_length
  · rw [length]
    show effect.next ≤ _ ∨ _ ∧ _ ∧ effect.next = _
    rcases puts_or_reserved_of_plan planned with ⟨value, puts, fits⟩ | reserved
    · rw [puts.next_eq, onStack.stacked]
      rw [onStack.stacked] at fits
      exact primitiveNext_le_of_fits onStack.slot_dvd_offset
        onStack.slot_dvd_length fits
    · exact Or.inl reserved

/-- The length of a native frame on the stack is the measured one. -/
theorem length_bytes_stacked
    (signature : Signature)
    (settings : Settings) :
    (withEncoder signature (.stacked signature.platform.layout)
        settings).bytes.length = signature.rawSize :=
  List.length_replicate

/-- On the stack of 32-bit x86 the measured size is made of slots. -/
theorem onStack_withEncoder
    {signature : Signature}
    (stack : signature.platform.cpu = .i386)
    (settings : Settings) :
    OnStack signature.platform
      (withEncoder signature (.stacked signature.platform.layout)
        settings) where
  stacked := rfl
  slot_dvd_offset := Nat.dvd_zero _
  slot_dvd_length := by
    rw [length_bytes_stacked, Signature.rawSize, rawParameterSize,
      Encoder.select_of_stack stack]
    exact dvd_alignUp ⟨2, rfl⟩
  bound := Or.inl (Nat.zero_le _)

/-! ## The bound -/

/-- The end of a frame is passed by one slot at most, and only on the stack. -/
theorem offset_le_or_overhangs
    (signature : Signature)
    (rawPacking : Bool)
    (settings : Settings)
    (arguments : List Argument) :
    let encoder := Encoder.select signature.platform rawPacking
    let frame := (withEncoder signature encoder settings).run arguments
    frame.offset ≤ frame.bytes.length ∨
      signature.Overhangs rawPacking ∧
        frame.offset = frame.bytes.length + stackSlot := by
  intro encoder frame
  have length :
      frame.bytes.length = encoder.bufferSize signature :=
    (extends_run (Encoder.spacious_select _ _) arguments).length_eq.trans
      List.length_replicate
  cases rawPacking with
  | false =>
      have onSlot : OnSlot signature frame :=
        onSlot_run signature _ _ settings arguments
      rw [onSlot.offset_eq, onSlot.length_eq]
      exact Or.inl (Nat.mul_le_mul_left _ onSlot.index_le)
  | true =>
      by_cases stack : signature.platform.cpu = .i386
      · have chosen : encoder = .stacked signature.platform.layout :=
          Encoder.select_of_stack stack
        have whole : frame.bytes.length = signature.rawSize := by
          rw [length, chosen]
          rfl
        have onStack : OnStack signature.platform frame := by
          dsimp only [frame]
          rw [chosen]
          exact run_preserves (fun onStack planned => onStack.apply planned)
            (onStack_withEncoder stack settings) arguments
        exact onStack.bound.imp_right fun ⟨wide, nonempty, past⟩ =>
          ⟨⟨rfl, stack, wide, whole ▸ nonempty⟩, past⟩
      · have chosen :
            encoder =
              .aligned (.ofPlatform signature.platform)
                signature.platform.layout :=
          Encoder.select_of_not_stack stack
        exact Or.inl (offset_le_of_aligned chosen (Nat.zero_le _) arguments)

/-! ## Where the bound fails -/

theorem after_written
    (unchecked : frame.validates = false)
    (fits :
      frame.encoder.primitiveEnd frame.offset value ≤ frame.bytes.length) :
    frame.after (.primitive value) =
      ((Passage.written value).effect frame).apply frame := by
  have admitted :
      frame.refusal? (Argument.primitive value).suppliedKind = none := by
    rw [refusal?, unchecked]
    rfl
  apply after_of_ok
  rw [put_eq_ok_iff]
  exact ⟨_, plan_eq_ok_iff.mpr ⟨admitted, _, rfl, fits, rfl⟩, rfl⟩

/-- Integers of 32 bits take one slot of the stack each. -/
theorem offset_run_replicate
    (stacked : frame.encoder = .stacked platform.layout)
    (unchecked : frame.validates = false)
    {count : Nat}
    (room : frame.offset + stackSlot * count ≤ frame.bytes.length) :
    (frame.run (List.replicate count (.primitive (.int 0)))).offset =
      frame.offset + stackSlot * count := by
  induction count with
  | zero => rfl
  | succ count induction =>
      rw [Nat.mul_succ, ← Nat.add_assoc] at room ⊢
      have spacious : frame.encoder.Spacious :=
        stacked ▸ Encoder.spacious_stacked platform
      have reached :=
        extends_run spacious (List.replicate count (.primitive (.int 0)))
      have before := induction (Nat.le_of_add_right_le room)
      rw [List.replicate_succ', run_append, run_cons, after_written]
      · show Encoder.primitiveNext _ _ _ = _
        rw [reached.encoder_eq, stacked, before]
        rfl
      · rw [reached.validates_eq]
        exact unchecked
      · rw [reached.encoder_eq, stacked, before, reached.length_eq]
        exact room

/-- An address at the last slot moves the cursor past the end. -/
theorem exists_offset_past_end
    (stacked : frame.encoder = .stacked platform.layout)
    (wide : platform.addressWidth = .w64)
    (unchecked : frame.validates = false)
    (start : frame.offset = 0)
    (slots : stackSlot ∣ frame.bytes.length)
    (nonempty : frame.bytes.length ≠ 0) :
    ∃ arguments,
      (frame.run arguments).offset = frame.bytes.length + stackSlot := by
  obtain ⟨total, length⟩ := slots
  obtain ⟨count, rfl⟩ : ∃ count, total = count + 1 :=
    Nat.exists_eq_succ_of_ne_zero (by
      rintro rfl
      exact nonempty length)
  have room : frame.offset + stackSlot * count ≤ frame.bytes.length := by
    rw [start, length, Nat.mul_succ]
    omega
  have spacious : frame.encoder.Spacious :=
    stacked ▸ Encoder.spacious_stacked platform
  have reached :=
    extends_run spacious (List.replicate count (.primitive (.int 0)))
  have before := offset_run_replicate stacked unchecked room
  rw [start, Nat.zero_add] at before
  -- integers take all slots but the last, and the address starts in that one
  refine ⟨List.replicate count (.primitive (.int 0)) ++
    [.primitive (.address 1)], ?_⟩
  rw [run_append, run_cons, after_written]
  · show Encoder.primitiveNext _ _ _ = _
    have moved :
        max platform.addressWidth.bytes stackSlot = stackSlot + stackSlot := by
      rw [wide]
      rfl
    rw [reached.encoder_eq, stacked, before, length]
    show stackSlot * count + max platform.addressWidth.bytes stackSlot = _
    rw [moved, Nat.mul_succ, Nat.add_assoc]
  · rw [reached.validates_eq]
    exact unchecked
  · rw [reached.encoder_eq, stacked, before, reached.length_eq, length]
    exact Nat.le_of_eq (Nat.mul_succ _ _).symm

/--
On a frame that checks no put against its signature, packed by the encoder that
is selected for the platform, the cursor stays inside the frame along every run,
except on the stack of 32-bit x86 when addresses are declared to have 64 bits.
There some run leads it past the end of every frame that has any bytes, and no
run leads it further than one slot of four bytes.
-/
theorem cursor_inside_iff
    {settings : Settings}
    (unchecked : settings.validation = false)
    (signature : Signature)
    (rawPacking : Bool) :
    let encoder := Encoder.select signature.platform rawPacking
    let start := withEncoder signature encoder settings
    ((∀ arguments,
        (start.run arguments).offset ≤ (start.run arguments).bytes.length) ↔
      ¬ signature.Overhangs rawPacking) ∧
      ∀ arguments,
        (start.run arguments).offset ≤
          (start.run arguments).bytes.length + 4 := by
  intro encoder start
  have bound (arguments : List Argument) :=
    offset_le_or_overhangs signature rawPacking settings arguments
  have length (arguments : List Argument) :
      (start.run arguments).bytes.length = start.bytes.length :=
    (extends_run (Encoder.spacious_select _ _) arguments).length_eq
  refine ⟨⟨?_, ?_⟩, ?_⟩
  · rintro inside ⟨rfl, stack, wide, nonempty⟩
    have chosen : encoder = .stacked signature.platform.layout :=
      Encoder.select_of_stack stack
    have onStack := onStack_withEncoder stack settings
    have whole := length_bytes_stacked signature settings
    rw [← chosen] at onStack whole
    obtain ⟨arguments, past⟩ :=
      exists_offset_past_end chosen wide unchecked rfl
        onStack.slot_dvd_length (whole ▸ nonempty)
    have reached := inside arguments
    rw [past, length] at reached
    exact Nat.not_lt.mpr reached (Nat.lt_add_of_pos_right (by decide))
  · intro exempt arguments
    exact (bound arguments).resolve_right fun past => exempt past.1
  · intro arguments
    rcases bound arguments with inside | ⟨-, past⟩
    · exact Nat.le_add_right_of_le inside
    · exact Nat.le_of_eq past

/-- One integer of 32 bits, on 32-bit x86 with addresses of 64 bits. -/
def narrowSignature : Signature where
  parameters := [⟨.sint32, 4, 4⟩]
  flags := .empty
  platform := (Platform.ofFamily .i386 .linux).withAddressWidth .w64

/-- An address in place of the integer moves the cursor from 0 to 8 of 4. -/
theorem narrowFrame_cursor_past_end :
    (∀ type ∈ narrowSignature.parameters,
      NativeType.BuiltFor narrowSignature.platform type) ∧
      Settings.standard.validation = false ∧
      let encoder := Encoder.select narrowSignature.platform true
      let start := withEncoder narrowSignature encoder .standard
      let frame := start.run [.primitive (.address 1)]
      frame.offset = 8 ∧ frame.bytes.length = 4 ∧
        ¬ frame.offset ≤ frame.bytes.length := by
  refine ⟨?_, rfl, rfl, rfl, by decide +kernel⟩
  intro type member
  rw [narrowSignature, List.mem_singleton] at member
  subst member
  exact @NativeType.BuiltFor.primitive _ .sint32 _ rfl

theorem narrowFrame_bound_fails :
    ¬ ∀ arguments,
      ((withEncoder narrowSignature (.select narrowSignature.platform true)
          .standard).run arguments).offset ≤
        ((withEncoder narrowSignature (.select narrowSignature.platform true)
          .standard).run arguments).bytes.length := by
  have unchecked : Settings.standard.validation = false := rfl
  have inside_iff := (cursor_inside_iff unchecked narrowSignature true).1
  rw [inside_iff]
  exact not_not_intro ⟨rfl, rfl, rfl, by decide +kernel⟩

end Frame

end CallFrame
