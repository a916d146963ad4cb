import CallFrame.Proofs.Tail

/-!
# The slots of a slotted frame

In a slotted frame every argument has one slot of eight bytes, and it does not
matter which type the signature declares.  The `k`-th accepted argument takes the
slot behind the first `k`, so the cursor is known from the index, and a signature
has a slot for each of its parameters.

A slot holds a primitive at its start and zeros behind it.  Only primitives and
the addresses of structs are written; everything else is passed by address, and
its slot is zero.  As long as there is a slot left, a put fails for nothing but a
defect that the argument brings with it, which `Argument.slotDefect?` names.
-/

namespace CallFrame

open Encoder (fixedSlot)

/-! ## Arguments in a slot -/

namespace Argument

/-- The primitive that an argument puts into its slot, if it does. -/
def slotPrimitive? : Argument → Option Primitive
  | .primitive value => some value
  | .structAt address _ => some (.address address)
  | .longDouble _ | .array _ _ _ _ | .directBuffer _ _ _ | .object _ _ _ _
  | .environment | .handle _ | .struct _ _ => none

/--
What is wrong with an argument for a slotted frame.  A `long double` is encoded
to bytes of its own, of which a layout may declare too few, and a struct must
have the bytes of the declared type.
-/
def slotDefect?
    (argument : Argument)
    (encoder : Encoder)
    (type : NativeType) :
    Option Error :=
  match argument with
  | .primitive _ | .structAt _ _ => none
  | .longDouble source =>
    (source.encode encoder.layout.longDoubleFormat encoder.byteOrder).error?
      (List.replicate encoder.layout.longDouble.size 0)
  | .array data offset length _ => (Payload.array data).defect? offset length
  | .directBuffer bytes offset length =>
    (Payload.directBuffer bytes).defect? offset length
  | .object _ _ _ _ | .environment | .handle _ => none
  | .struct bytes offset => (Payload.struct bytes).defect? offset type.size

/-- A slot holds the primitive of an argument, or nothing but zeros. -/
def FillsSlot
    (argument : Argument)
    (encoder : Encoder)
    (bytes : List UInt8)
    (start : Nat) :
    Prop :=
  match argument.slotPrimitive? with
  | some value =>
    encoder.Reads bytes ⟨start, value.width encoder.writer.addressWidth⟩ value
  | none => window bytes start fixedSlot = List.replicate fixedSlot 0

end Argument

namespace Frame

section Ways

variable {frame : Frame} {argument : Argument} {passage : Passage}
variable {effect : Effect} {type : NativeType}

theorem longDoublePlacement_of_slotted
    (slotted : frame.encoder.isRaw = false)
    (offset : Nat) :
    frame.encoder.longDoublePlacement? offset = none := by
  rw [Encoder.longDoublePlacement?, slotted]
  rfl

theorem structPlacement_of_slotted
    (slotted : frame.encoder.isRaw = false)
    (type : NativeType) :
    frame.structPlacement? type = none := by
  rw [structPlacement?, Encoder.structPlacement?, slotted]
  split <;> rfl

/-- In a slotted frame an argument has no way exactly if it is defective. -/
theorem passage_eq_error_iff
    (slotted : frame.encoder.isRaw = false)
    (declared : frame.signature.parameterType? frame.index = some type)
    {error : Error} :
    frame.passage argument = .error error ↔
      argument.slotDefect? frame.encoder type = some error := by
  cases argument with
  | primitive value => simp [passage, Argument.slotDefect?]
  | longDouble source =>
      have settled :=
        source.encode_settles frame.encoder.layout.longDoubleFormat
          frame.encoder.byteOrder
          (List.replicate frame.encoder.layout.longDouble.size 0)
      dsimp only at settled
      rw [List.length_replicate] at settled
      rw [passage, longDoublePassage, Argument.slotDefect?, Action.error?,
        settled, longDoublePlacement_of_slotted slotted]
      cases made : source.image frame.encoder.layout.longDoubleFormat
          frame.encoder.byteOrder frame.encoder.layout.longDouble.size with
      | ok bytes =>
          -- the scratch bytes are as many as the window asks for
          have covered :
              (Payload.array (.scratch bytes)).covers 0
                frame.encoder.layout.longDouble.size = true := by
            apply decide_eq_true
            rw [Nat.zero_add]
            exact Nat.le_of_eq (LongDoubleSource.length_of_image made).symm
          dsimp only
          rw [Passage.ofEntry_of_covers covered]
          simp [Action.settled]
      | error cause => simp [Action.settled]
  | array data offset length flags => exact Passage.ofEntry_eq_error_iff
  | directBuffer bytes offset length => exact Passage.ofEntry_eq_error_iff
  | object | environment | handle =>
      rw [passage, Passage.ofEntry_of_covers rfl]
      simp [Argument.slotDefect?]
  | struct bytes offset =>
      rw [passage, structPassage, declared]
      dsimp only
      rw [structPlacement_of_slotted slotted type]
      exact Passage.ofEntry_eq_error_iff
  | structAt address memory =>
      rw [passage, structAtPassage, declared]
      dsimp only
      rw [structPlacement_of_slotted slotted type]
      simp [Argument.slotDefect?]

/-- In a slotted frame an argument is written or registered. -/
theorem Enters.slotted_cases
    (enters : Enters frame argument passage)
    (slotted : frame.encoder.isRaw = false) :
    (∃ value, argument.slotPrimitive? = some value ∧
        passage = .written value) ∨
      ∃ entry, argument.slotPrimitive? = none ∧
        passage = .registered entry := by
  cases enters with
  | primitive value => exact Or.inl ⟨value, rfl, rfl⟩
  | @reference argument entry referred covered =>
      refine Or.inr ⟨entry, ?_, rfl⟩
      cases argument <;> first | rfl | cases referred
  | longDouble made placed =>
      rw [longDoublePlacement_of_slotted slotted] at placed
      cases placed
  | scratch made boxed covered => exact Or.inr ⟨_, rfl, rfl⟩
  | struct declared placed enough =>
      rw [structPlacement_of_slotted slotted] at placed
      cases placed
  | structReference declared boxed covered => exact Or.inr ⟨_, rfl, rfl⟩
  | structAt declared placed present =>
      rw [structPlacement_of_slotted slotted] at placed
      cases placed
  | @structAddress address memory type declared boxed =>
      exact Or.inl ⟨.address address, rfl, rfl⟩

/--
In a slotted frame an argument puts its primitive, or the zero address if it has
none, and there is room for it exactly if there is room for that primitive.
-/
theorem Enters.puts_slot
    (enters : Enters frame argument passage)
    (slotted : frame.encoder.isRaw = false) :
    let value := argument.slotPrimitive?.getD (.address 0)
    frame.Puts (passage.effect frame) value ∧
      (passage.Fits frame ↔
        frame.encoder.primitiveEnd frame.offset value ≤
          frame.bytes.length) := by
  intro value
  rcases enters.slotted_cases slotted with
    ⟨primitive, known, rfl⟩ | ⟨entry, unknown, rfl⟩
  · have equal : value = primitive := by
      dsimp only [value]
      rw [known, Option.getD_some]
    rw [equal]
    exact ⟨frame.puts_written primitive, Iff.rfl⟩
  · have equal : value = .address 0 := by
      dsimp only [value]
      rw [unknown, Option.getD_none]
    rw [equal]
    exact ⟨frame.puts_registered entry, Iff.rfl⟩

end Ways

/-! ## The invariant -/

theorem primitiveStart_of_slotted
    {encoder : Encoder}
    (slotted : encoder.isRaw = false)
    (offset : Nat)
    (value : Primitive) :
    encoder.primitiveStart offset value = offset := by
  cases encoder with
  | slotted writer layout => rfl
  | aligned writer layout => cases slotted
  | stacked layout => cases slotted

theorem primitiveNext_of_slotted
    {encoder : Encoder}
    (slotted : encoder.isRaw = false)
    (offset : Nat)
    (value : Primitive) :
    encoder.primitiveNext offset value = offset + fixedSlot := by
  cases encoder with
  | slotted writer layout => rfl
  | aligned writer layout => cases slotted
  | stacked layout => cases slotted

theorem spacious_of_slotted
    {encoder : Encoder}
    (slotted : encoder.isRaw = false) :
    encoder.Spacious := by
  cases encoder with
  | slotted writer layout => exact Encoder.spacious_slotted writer layout
  | aligned writer layout => cases slotted
  | stacked layout => cases slotted

/-- A slotted frame whose cursor is at the slot of the next parameter. -/
structure OnSlot (signature : Signature) (frame : Frame) : Prop where
  signature_eq : frame.signature = signature
  slotted : frame.encoder.isRaw = false
  length_eq : frame.bytes.length = fixedSlot * signature.parameterCount
  offset_eq : frame.offset = fixedSlot * frame.index
  index_le : frame.index ≤ signature.parameterCount

section Step

variable {signature : Signature} {frame : Frame}
variable {argument : Argument} {effect : Effect}

theorem onSlot_withEncoder
    (signature : Signature)
    (writer : Writer)
    (layout : PrimitiveLayout)
    (settings : Settings) :
    OnSlot signature
      (withEncoder signature (.slotted writer layout) settings) where
  signature_eq := rfl
  slotted := rfl
  length_eq := List.length_replicate.trans (Nat.mul_comm _ _)
  offset_eq := rfl
  index_le := Nat.zero_le _

/-- A primitive has room exactly if there is a slot left. -/
theorem OnSlot.primitiveEnd_le_iff
    (onSlot : OnSlot signature frame)
    (value : Primitive) :
    frame.encoder.primitiveEnd frame.offset value ≤ frame.bytes.length ↔
      frame.index < signature.parameterCount := by
  have wide := value.width_pos frame.encoder.writer.addressWidth
  have narrow := value.width_le_fixedSlot frame.encoder.writer.addressWidth
  rw [Encoder.primitiveEnd, primitiveStart_of_slotted onSlot.slotted,
    onSlot.offset_eq, onSlot.length_eq]
  rw [fixedSlot] at narrow ⊢
  omega

/-- A successful put takes the next slot. -/
theorem OnSlot.takes_slot
    (onSlot : OnSlot signature frame)
    (planned : frame.plan argument = .ok effect) :
    frame.index < signature.parameterCount ∧
      frame.Puts effect (argument.slotPrimitive?.getD (.address 0)) := by
  obtain ⟨passage, enters, fits, rfl⟩ := exists_enters_of_plan planned
  obtain ⟨puts, fits_iff⟩ := enters.puts_slot onSlot.slotted
  exact ⟨(onSlot.primitiveEnd_le_iff _).mp (fits_iff.mp fits), puts⟩

theorem OnSlot.apply
    (onSlot : OnSlot signature frame)
    (planned : frame.plan argument = .ok effect) :
    OnSlot signature (effect.apply frame) := by
  obtain ⟨left, puts⟩ := onSlot.takes_slot planned
  constructor
  · exact onSlot.signature_eq
  · exact onSlot.slotted
  · exact (length_bytes_apply planned).trans onSlot.length_eq
  · show effect.next = fixedSlot * (frame.index + 1)
    rw [puts.next_eq, primitiveNext_of_slotted onSlot.slotted,
      onSlot.offset_eq, Nat.mul_succ]
  · exact left

/-- Once every slot is taken, no put succeeds. -/
theorem OnSlot.error_of_full
    (onSlot : OnSlot signature frame)
    (full : frame.index = signature.parameterCount)
    (argument : Argument) :
    ∃ error, (put argument).error? frame = some error := by
  rw [error?_put]
  cases planned : frame.plan argument with
  | ok effect =>
      have left := (onSlot.takes_slot planned).1
      exact absurd full (Nat.ne_of_lt left)
  | error cause => exact ⟨cause, rfl⟩

/-- While there is a slot left, a put fails exactly for a defect. -/
theorem OnSlot.error?_eq_slotDefect?
    (onSlot : OnSlot signature frame)
    (unchecked : frame.validates = false)
    {type : NativeType}
    (declared : signature.parameterType? frame.index = some type)
    (argument : Argument) :
    (put argument).error? frame =
      argument.slotDefect? frame.encoder type := by
  have admitted : frame.refusal? argument.suppliedKind = none := by
    rw [refusal?, unchecked]
    rfl
  have declared' : frame.signature.parameterType? frame.index = some type := by
    rw [onSlot.signature_eq]
    exact declared
  have left : frame.index < signature.parameterCount :=
    (List.getElem?_eq_some_iff.mp declared).1
  have defect (error : Error) :=
    @passage_eq_error_iff frame argument type onSlot.slotted declared' error
  have planned := plan_of_slotted onSlot.slotted admitted
  rw [error?_put]
  cases way : frame.passage argument with
  | error cause =>
      rw [way] at planned
      rw [planned]
      exact ((defect cause).mp way).symm
  | ok passage =>
      obtain ⟨-, fits_iff⟩ := (enters_of_passage way).puts_slot onSlot.slotted
      have fits : passage.Fits frame :=
        fits_iff.mpr ((onSlot.primitiveEnd_le_iff _).mpr left)
      have sound : argument.slotDefect? frame.encoder type = none := by
        cases wrong : argument.slotDefect? frame.encoder type with
        | none => rfl
        | some cause =>
            have failed := (defect cause).mpr wrong
            rw [way] at failed
            cases failed
      have outcome : passage.outcome frame = .ok (passage.effect frame) :=
        if_pos fits
      rw [way] at planned
      rw [sound, planned.trans outcome]

end Step

theorem onSlot_run
    (signature : Signature)
    (writer : Writer)
    (layout : PrimitiveLayout)
    (settings : Settings)
    (arguments : List Argument) :
    let start := withEncoder signature (.slotted writer layout) settings
    OnSlot signature (start.run arguments) :=
  run_preserves (fun onSlot planned => onSlot.apply planned)
    (onSlot_withEncoder signature writer layout settings) arguments

/-! ## The content of the slots -/

/-- What is left of a put in a slotted frame, told by the slot that it took. -/
structure LeavesSlot
    (before : Frame)
    (argument : Argument)
    (effect : Effect)
    (final : Frame) :
    Prop extends
      before.Leaves effect final,
      before.Puts effect (argument.slotPrimitive?.getD (.address 0)) where
  slotted : before.encoder.isRaw = false
  inside : before.offset + fixedSlot ≤ final.bytes.length

namespace LeavesSlot

variable {before final : Frame} {argument : Argument} {effect : Effect}

/-- Behind the bytes that were written, the slot is blank. -/
theorem getElem?_eq_zero
    (left : before.LeavesSlot argument effect final)
    {index : Nat}
    (behind : before.offset + effect.image.length ≤ index)
    (within : index < before.offset + fixedSlot) :
    final.bytes[index]? = some 0 := by
  apply left.blank
  · omega
  · rw [left.next_eq, primitiveNext_of_slotted left.slotted]
    exact within
  · exact Nat.lt_of_lt_of_le within left.inside
  · right
    rw [left.start_eq, primitiveStart_of_slotted left.slotted]
    exact behind

/-- A slot holds what its argument has put there. -/
theorem fillsSlot
    (left : before.LeavesSlot argument effect final) :
    argument.FillsSlot before.encoder final.bytes before.offset := by
  have spacious := spacious_of_slotted left.slotted
  rw [Argument.FillsSlot]
  cases known : argument.slotPrimitive? with
  | some value =>
      have puts : before.Puts effect value := by
        have puts := left.toPuts
        rw [known] at puts
        exact puts
      have start := primitiveStart_of_slotted left.slotted before.offset value
      have inside :
          before.offset + value.width before.encoder.writer.addressWidth ≤
            final.bytes.length :=
        Nat.le_trans
          (Nat.add_le_add_left (value.width_le_fixedSlot _) _) left.inside
      have fits :
          before.encoder.primitiveEnd before.offset value ≤
            final.bytes.length := by
        rw [Encoder.primitiveEnd, start]
        exact inside
      have held := left.window_eq_encode puts spacious fits
      rw [start] at held
      exact Encoder.reads_of_window (Writer.length_encode _ value) inside held
  | none =>
      have empty : effect.image = [] := by
        rw [left.image_eq, known]
        rfl
      apply window_eq_replicate
      intro index lt
      apply left.getElem?_eq_zero
      · rw [empty]
        exact Nat.le_add_right _ _
      · exact Nat.add_lt_add_left lt _

end LeavesSlot

/-- Each accepted argument has taken the slot of its position. -/
theorem exists_leavesSlot
    {signature : Signature}
    {writer : Writer}
    {layout : PrimitiveLayout}
    {settings : Settings}
    {arguments : List Argument}
    {position : Nat}
    {argument : Argument} :
    let start := withEncoder signature (.slotted writer layout) settings
    (start.accepted arguments)[position]? = some argument →
      ∃ (before : Frame) (effect : Effect),
        before.encoder = .slotted writer layout ∧
          before.offset = fixedSlot * position ∧
          before.LeavesSlot argument effect (start.run arguments) := by
  intro start supplied
  have spacious : start.encoder.Spacious :=
    Encoder.spacious_slotted writer layout
  have tail : start.BlankTail := blankTail_withEncoder _ _ _
  obtain ⟨effect, planned, leaves⟩ :=
    exists_leaves_of_accepted spacious tail supplied
  have onSlot :=
    onSlot_run signature writer layout settings
      ((start.accepted arguments).take position)
  have reached :=
    extends_run spacious ((start.accepted arguments).take position)
  obtain ⟨left, puts⟩ := onSlot.takes_slot planned
  have bound : position < (start.accepted arguments).length :=
    (List.getElem?_eq_some_iff.mp supplied).1
  have count :
      (start.run ((start.accepted arguments).take position)).index =
        position := by
    rw [index_run, accepted_take, List.length_take,
      Nat.min_eq_left (Nat.le_of_lt bound)]
    exact Nat.zero_add position
  have offset := onSlot.offset_eq
  rw [count] at offset left
  refine ⟨_, effect, reached.encoder_eq, offset, leaves, puts, onSlot.slotted, ?_⟩
  rw [offset, (onSlot_run signature writer layout settings arguments).length_eq,
    ← Nat.mul_succ]
  exact Nat.mul_le_mul_left _ left

/-- A byte that no primitive takes is zero. -/
theorem getElem?_eq_zero_of_slotted
    (signature : Signature)
    (writer : Writer)
    (layout : PrimitiveLayout)
    (settings : Settings)
    (arguments : List Argument)
    {index : Nat} :
    let start := withEncoder signature (.slotted writer layout) settings
    let puts := start.accepted arguments
    let frame := start.run arguments
    index < frame.bytes.length →
      (∀ (position : Nat) (argument : Argument) (value : Primitive),
        puts[position]? = some argument →
        argument.slotPrimitive? = some value →
        ¬ Extent.Covers
            ⟨fixedSlot * position, value.width writer.addressWidth⟩ index) →
      frame.bytes[index]? = some 0 := by
  intro start puts frame inside uncovered
  have onSlot := onSlot_run signature writer layout settings arguments
  have spacious : start.encoder.Spacious :=
    Encoder.spacious_slotted writer layout
  have slot : fixedSlot * (index / fixedSlot) ≤ index :=
    Nat.mul_div_le index fixedSlot
  have within : index < fixedSlot * (index / fixedSlot) + fixedSlot :=
    Nat.lt_mul_div_succ index (by decide)
  cases supplied : puts[index / fixedSlot]? with
  | some argument =>
      obtain ⟨before, effect, chosen, offset, left⟩ :=
        exists_leavesSlot supplied
      rw [← offset] at slot within
      apply left.getElem?_eq_zero _ within
      have stored := before.encoder.length_stored_le
        (argument.slotPrimitive?.getD (.address 0))
      rw [← left.image_eq] at stored
      cases known : argument.slotPrimitive? with
      | some value =>
          have free := uncovered _ argument value supplied known
          rw [known, Option.getD_some, chosen] at stored
          rw [Extent.Covers, Extent.finish, ← offset] at free
          have wide :
              effect.image.length ≤ value.width writer.addressWidth := stored
          simp only at free
          omega
      | none =>
          have empty : effect.image = [] := by
            rw [left.image_eq, known]
            rfl
          rw [empty]
          exact slot
  | none =>
      have past : puts.length ≤ index / fixedSlot :=
        List.getElem?_eq_none_iff.mp supplied
      have count : frame.index = puts.length :=
        (index_run start arguments).trans (Nat.zero_add _)
      apply (blankTail_withEncoder signature _ settings).run spacious
      · show frame.offset ≤ index
        rw [onSlot.offset_eq, count]
        exact Nat.le_trans (Nat.mul_le_mul_left _ past) slot
      · exact inside

/-! ## The slots of a run -/

/--
A slotted frame that checks no put against its signature, whatever its writer
and layout are, and whatever is put in whatever order: the cursor is eight times
the index, and the index is at most the number of parameters.  While there is a
parameter left, a put fails exactly for a defect of its argument, so never for
lack of room in the frame, and after that no put succeeds.  The slot of each
accepted argument holds its primitive, or zeros if it is passed by address, and
every byte that no primitive takes is zero.
-/
theorem slotted_puts_fill_slots
    (signature : Signature)
    (writer : Writer)
    (layout : PrimitiveLayout)
    {settings : Settings}
    (unchecked : settings.validation = false)
    (arguments : List Argument) :
    let encoder := Encoder.slotted writer layout
    let start := withEncoder signature encoder settings
    let puts := start.accepted arguments
    let frame := start.run arguments
    frame.index = puts.length ∧
      frame.index ≤ signature.parameterCount ∧
      frame.offset = 8 * frame.index ∧
      frame.bytes.length = 8 * signature.parameterCount ∧
      (∀ type argument,
        signature.parameterType? frame.index = some type →
        (put argument).error? frame = argument.slotDefect? encoder type) ∧
      (frame.index = signature.parameterCount →
        ∀ argument, ∃ error, (put argument).error? frame = some error) ∧
      (∀ (position : Nat) (argument : Argument),
        puts[position]? = some argument →
        argument.FillsSlot encoder frame.bytes (8 * position)) ∧
      ∀ index < frame.bytes.length,
        (∀ (position : Nat) (argument : Argument) (value : Primitive),
          puts[position]? = some argument →
          argument.slotPrimitive? = some value →
          ¬ Extent.Covers ⟨8 * position, value.width writer.addressWidth⟩
              index) →
        frame.bytes[index]? = some 0 := by
  intro encoder start puts frame
  have onSlot : OnSlot signature frame :=
    onSlot_run signature writer layout settings arguments
  have reached : start.Extends frame :=
    extends_run (Encoder.spacious_slotted writer layout) arguments
  have unchecked' : frame.validates = false :=
    reached.validates_eq.trans unchecked
  have chosen : frame.encoder = encoder := reached.encoder_eq
  refine ⟨?_, onSlot.index_le, onSlot.offset_eq, onSlot.length_eq, ?_,
    onSlot.error_of_full, ?_, ?_⟩
  · exact (index_run start arguments).trans (Nat.zero_add _)
  · intro type argument declared
    rw [← chosen]
    exact onSlot.error?_eq_slotDefect? unchecked' declared argument
  · intro position argument supplied
    obtain ⟨before, effect, same, offset, left⟩ := exists_leavesSlot supplied
    have filled := left.fillsSlot
    rw [same, offset] at filled
    exact filled
  · intro index inside uncovered
    exact getElem?_eq_zero_of_slotted signature writer layout settings
      arguments inside uncovered

/-- A frame of big-endian slots that does not check what is put. -/
def slottedFrame : Frame :=
  withEncoder mixedSignature (.slotted .be32 mixedSignature.platform.layout)
    .standard

/-- Arguments that mostly do not match the mixed signature. -/
def slottedArguments : List Argument :=
  [.structAt 0x1122334455667788 [], .longDouble (.text "1.5x"),
    .longDouble (.text "1.5"), .primitive (.short (-2))]

theorem slottedFrame_fills_slots :
    (slottedFrame.run slottedArguments).offset = 24 ∧
      (Encoder.slotted .be32 mixedSignature.platform.layout).Reads
        (slottedFrame.run slottedArguments).bytes ⟨0, 4⟩
        (.address 0x1122334455667788) ∧
      window (slottedFrame.run slottedArguments).bytes 8 8 =
        List.replicate 8 0 := by
  have unchecked : Settings.standard.validation = false := rfl
  have whole :=
    slotted_puts_fill_slots mixedSignature .be32 mixedSignature.platform.layout
      unchecked slottedArguments
  refine ⟨whole.2.2.1, ?_, ?_⟩
  · exact whole.2.2.2.2.2.2.1 0 _ rfl
  · exact whole.2.2.2.2.2.2.1 1 _ rfl

end Frame

end CallFrame
