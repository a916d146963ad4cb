import CallFrame.Proofs.BuiltType
import CallFrame.Proofs.Tail
import CallFrame.Signature

/-!
# The cursor of a native frame

The size of a native frame is found by walking over the types of a signature.
This module follows that walk: `Encoder.offsetBefore` is the cursor in front of
a parameter, computed from the types alone.

Two facts make the walk agree with the puts.  The cursor never moves back, so
that every parameter ends inside the frame.  And at every cursor of the walk a
value starts at a multiple of the slot width: the aligned strategy sees to it by
itself, whereas on the stack of 32-bit x86 it holds because every parameter
takes whole slots.  Cursors with that property are called ready.
-/

namespace CallFrame

open NativeType (BuiltFor)

namespace Encoder

/-- The encoders that pack to the native layout of a platform. -/
inductive NativeFor (platform : Platform) : Encoder → Prop where
  | aligned :
      NativeFor platform (.aligned (.ofPlatform platform) platform.layout)
  | stacked : NativeFor platform (.stacked platform.layout)

theorem nativeFor_select (platform : Platform) :
    NativeFor platform (select platform true) := by
  by_cases stack : platform.cpu = .i386
  · rw [select_of_stack stack]
    exact .stacked
  · rw [select_of_not_stack stack]
    exact .aligned

/-- A value that is put at this cursor starts at a multiple of the slot width. -/
def Ready (encoder : Encoder) (offset : Nat) : Prop :=
  ∀ alignment : Nat, alignment.isPowerOfTwo →
    encoder.slotSize ∣ encoder.align offset alignment

namespace NativeFor

variable {platform : Platform} {encoder : Encoder}

theorem layout_eq (native : NativeFor platform encoder) :
    encoder.layout = platform.layout := by
  cases native <;> rfl

theorem isRaw_eq (native : NativeFor platform encoder) :
    encoder.isRaw = true := by
  cases native <;> rfl

theorem isPowerOfTwo_slotSize (native : NativeFor platform encoder) :
    encoder.slotSize.isPowerOfTwo := by
  cases native with
  | aligned =>
      exact isPowerOfTwo_of_eq_four_or_eight platform.addressWidth.bytes_eq
  | stacked => exact ⟨2, rfl⟩

theorem spacious (native : NativeFor platform encoder) : encoder.Spacious := by
  cases native with
  | aligned => exact spacious_aligned platform
  | stacked => exact spacious_stacked platform

/-! ## Ready cursors -/

/-- The aligned strategy rounds every start up to a slot. -/
theorem ready_aligned
    (platform : Platform)
    (offset : Nat) :
    Ready (.aligned (.ofPlatform platform) platform.layout) offset := by
  intro alignment power
  have slot : platform.layout.slotSize.isPowerOfTwo :=
    isPowerOfTwo_of_eq_four_or_eight platform.addressWidth.bytes_eq
  have wider := isPowerOfTwo_max power slot
  exact Nat.dvd_trans
    (dvd_of_isPowerOfTwo_of_le slot wider (Nat.le_max_right _ _))
    (dvd_alignUp wider)

theorem ready_stacked_iff
    {layout : PrimitiveLayout}
    {offset : Nat} :
    Ready (.stacked layout) offset ↔ stackSlot ∣ offset := by
  constructor
  · intro ready
    exact ready 1 ⟨0, rfl⟩
  · intro aligned alignment power
    exact aligned

theorem ready_zero (native : NativeFor platform encoder) :
    encoder.Ready 0 := by
  cases native with
  | aligned => exact ready_aligned platform 0
  | stacked => exact ready_stacked_iff.mpr (Nat.dvd_zero _)

/-- On the stack a primitive takes one slot or two. -/
theorem stackSlot_dvd_size
    {layout : TypeLayout}
    {kind : Kind}
    (known : kind.layout? platform = some layout)
    (notLongDouble : kind ≠ .longDouble) :
    stackSlot ∣ max layout.size stackSlot := by
  have long := platform.longWidth.bytes_eq
  have address := platform.addressWidth.bytes_eq
  have wordSize {size : Nat} (word : size = 4 ∨ size = 8) :
      stackSlot ∣ max size stackSlot := by
    rcases word with rfl | rfl <;> decide
  match kind, known with
  | .void, rfl | .sint8, rfl | .uint8, rfl | .sint16, rfl | .uint16, rfl
  | .sint32, rfl | .uint32, rfl | .float, rfl => exact ⟨1, rfl⟩
  | .sint64, rfl | .uint64, rfl | .double, rfl => exact ⟨2, rfl⟩
  | .slong, rfl | .ulong, rfl => exact wordSize long
  | .longDouble, rfl => exact (notLongDouble rfl).elim
  | .pointer, rfl | .object, rfl => exact wordSize address

/-- The cursor behind a parameter is ready if the one in front of it is. -/
theorem ready_offsetAfter
    (native : NativeFor platform encoder)
    {type : NativeType}
    (built : BuiltFor platform type)
    {offset : Nat}
    (ready : encoder.Ready offset) :
    encoder.Ready (encoder.offsetAfter offset type) := by
  cases native with
  | aligned => exact ready_aligned platform _
  | stacked =>
      rw [ready_stacked_iff] at ready ⊢
      rw [offsetAfter]
      by_cases padded : type.kind = .struct ∨ type.kind = .longDouble
      · rw [if_pos padded]
        exact (Nat.dvd_add_right ready).mpr (dvd_alignUp ⟨2, rfl⟩)
      · rw [not_or] at padded
        rw [if_neg (not_or.mpr padded)]
        apply (Nat.dvd_add_right ready).mpr
        exact stackSlot_dvd_size (built.layout_of_ne_struct padded.1) padded.2

end NativeFor

/-! ## The walk over the types -/

/-- Behind a start at a slot, rounding the end is rounding the size. -/
theorem structPlacement_of_dvd
    {encoder : Encoder}
    {offset : Nat}
    {type : NativeType}
    (raw : encoder.isRaw = true)
    (power : encoder.slotSize.isPowerOfTwo)
    (kind : type.kind = .struct)
    (aligned : encoder.slotSize ∣ encoder.align offset type.alignment) :
    encoder.structPlacement? offset type =
      some ⟨encoder.align offset type.alignment,
        encoder.offsetAfter offset type⟩ := by
  rw [structPlacement?, if_pos raw]
  dsimp only
  rw [alignUp_add_of_dvd power aligned, offsetAfter, if_pos (Or.inl kind)]

/-- The cursor does not move back over a parameter. -/
theorem le_offsetAfter (encoder : Encoder) (offset : Nat) (type : NativeType) :
    offset ≤ encoder.offsetAfter offset type := by
  have start := encoder.le_align offset type.alignment
  rw [offsetAfter]
  by_cases padded : type.kind = .struct ∨ type.kind = .longDouble
  · rw [if_pos padded]
    exact Nat.le_add_right_of_le start
  · rw [if_neg padded]
    cases encoder <;> exact Nat.le_add_right_of_le start

/-- A value that is padded to whole slots ends inside of them. -/
theorem align_add_size_le
    (encoder : Encoder)
    {type : NativeType}
    (padded : type.kind = .struct ∨ type.kind = .longDouble)
    (offset : Nat) :
    encoder.align offset type.alignment + type.size ≤
      encoder.offsetAfter offset type := by
  rw [offsetAfter, if_pos padded]
  exact Nat.add_le_add_left (le_alignUp _ _) _

theorem le_foldl_offsetAfter
    (encoder : Encoder)
    (types : List NativeType)
    (offset : Nat) :
    offset ≤ types.foldl encoder.offsetAfter offset := by
  induction types generalizing offset with
  | nil => exact Nat.le_refl offset
  | cons type rest induction =>
      exact Nat.le_trans (encoder.le_offsetAfter offset type) (induction _)

/-- The cursor in front of a parameter, found by walking over the types. -/
def offsetBefore
    (encoder : Encoder)
    (parameters : List NativeType)
    (position : Nat) :
    Nat :=
  (parameters.take position).foldl encoder.offsetAfter 0

theorem offsetBefore_succ
    {encoder : Encoder}
    {parameters : List NativeType}
    {position : Nat}
    {type : NativeType}
    (declared : parameters[position]? = some type) :
    encoder.offsetBefore parameters (position + 1) =
      encoder.offsetAfter (encoder.offsetBefore parameters position) type := by
  rw [offsetBefore, List.take_add_one, declared, List.foldl_append]
  rfl

theorem offsetBefore_length
    (encoder : Encoder)
    (parameters : List NativeType) :
    encoder.offsetBefore parameters parameters.length =
      parameters.foldl encoder.offsetAfter 0 := by
  rw [offsetBefore, List.take_length]

theorem offsetBefore_mono
    (encoder : Encoder)
    (parameters : List NativeType)
    {first last : Nat}
    (le : first ≤ last) :
    encoder.offsetBefore parameters first ≤
      encoder.offsetBefore parameters last := by
  have split :
      parameters.take last =
        parameters.take first ++ (parameters.take last).drop first := by
    have whole := List.take_append_drop first (parameters.take last)
    rw [List.take_take, Nat.min_eq_left le] at whole
    exact whole.symm
  rw [offsetBefore, offsetBefore, split, List.foldl_append]
  exact encoder.le_foldl_offsetAfter _ _

/-- No cursor of the walk is behind the end of the frame. -/
theorem offsetBefore_le_frameSize
    (encoder : Encoder)
    (parameters : List NativeType)
    (position : Nat) :
    encoder.offsetBefore parameters position ≤ encoder.frameSize parameters := by
  have walk :
      encoder.offsetBefore parameters position ≤
        parameters.foldl encoder.offsetAfter 0 := by
    rw [← offsetBefore_length]
    rcases Nat.le_total position parameters.length with inside | past
    · exact encoder.offsetBefore_mono parameters inside
    · rw [offsetBefore, offsetBefore, List.take_of_length_le past,
        List.take_length]
  exact Nat.le_trans walk (le_alignUp _ _)

namespace NativeFor

variable {platform : Platform} {encoder : Encoder}
variable {parameters : List NativeType}

/-- Every cursor of the walk is ready. -/
theorem ready_offsetBefore
    (native : NativeFor platform encoder)
    (built : ∀ type ∈ parameters, BuiltFor platform type)
    (position : Nat) :
    encoder.Ready (encoder.offsetBefore parameters position) := by
  induction position with
  | zero => exact native.ready_zero
  | succ position induction =>
      cases declared : parameters[position]? with
      | some type =>
          rw [offsetBefore_succ declared]
          have member := List.mem_of_getElem? declared
          exact native.ready_offsetAfter (built type member) induction
      | none =>
          have past : parameters.length ≤ position :=
            List.getElem?_eq_none_iff.mp declared
          rw [offsetBefore, List.take_of_length_le (by omega)]
          rw [offsetBefore, List.take_of_length_le past] at induction
          exact induction

/-! ## The places of the parameters -/

variable {type : NativeType}

/-- A primitive starts where a type of the same layout starts. -/
theorem primitiveStart_eq
    (native : NativeFor platform encoder)
    {value : Primitive}
    (same : platform.layout.ofPrimitive value = ⟨type.size, type.alignment⟩)
    (offset : Nat) :
    encoder.primitiveStart offset value =
      encoder.align offset type.alignment := by
  rw [primitiveStart, native.layout_eq, same]

/-- A put of a primitive moves the cursor as a type of the same layout does. -/
theorem primitiveNext_eq
    (native : NativeFor platform encoder)
    {value : Primitive}
    (same : platform.layout.ofPrimitive value = ⟨type.size, type.alignment⟩)
    (plain : ¬ (type.kind = .struct ∨ type.kind = .longDouble))
    (offset : Nat) :
    encoder.primitiveNext offset value = encoder.offsetAfter offset type := by
  rw [primitiveNext, native.primitiveStart_eq same, native.layout_eq, same,
    offsetAfter, if_neg plain]

theorem longDoublePlacement_eq
    (native : NativeFor platform encoder)
    (built : BuiltFor platform type)
    (kind : type.kind = .longDouble)
    (offset : Nat) :
    encoder.longDoublePlacement? offset =
      some ⟨encoder.align offset type.alignment,
        encoder.offsetAfter offset type⟩ := by
  rw [longDoublePlacement?, if_pos native.isRaw_eq, native.layout_eq,
    layout_longDouble_of_kind built kind, offsetAfter, if_pos (Or.inr kind)]

/-- Behind a ready cursor, rounding the end is rounding the size. -/
theorem structPlacement_eq
    (native : NativeFor platform encoder)
    (built : BuiltFor platform type)
    (kind : type.kind = .struct)
    {offset : Nat}
    (ready : encoder.Ready offset) :
    encoder.structPlacement? offset type =
      some ⟨encoder.align offset type.alignment,
        encoder.offsetAfter offset type⟩ :=
  structPlacement_of_dvd native.isRaw_eq native.isPowerOfTwo_slotSize kind
    (ready type.alignment built.isPowerOfTwo_alignment)

end NativeFor

end Encoder

end CallFrame
