import CallFrame.Proofs.Extent
import CallFrame.Proofs.Native.Put

/-!
# Extents of the parameters

Every parameter of a native frame has an extent: the bytes that its value takes,
without the padding around them.  The extents are computed from the types of a
signature alone, before any argument is known.

An extent ends at or before the cursor behind its parameter, and the next one
starts at or behind that cursor.  So the extents are in order, no two of them
share a byte, and all of them are inside the frame.  The bytes that an argument
has in the frame fill the extent of its parameter exactly.
-/

namespace CallFrame

open NativeType (BuiltFor)

namespace Encoder

/-- The number of bytes that a value of a type takes in a native frame. -/
def storedWidth (encoder : Encoder) (type : NativeType) : Nat :=
  if type.kind = .pointer ∨ type.kind = .object then
    encoder.writer.addressBytes
  else
    type.size

/-- The bytes of a value of a type that is put at an offset. -/
def extentAt
    (encoder : Encoder)
    (offset : Nat)
    (type : NativeType) :
    Extent :=
  ⟨encoder.align offset type.alignment, encoder.storedWidth type⟩

/-- The bytes of the values of all parameters, in order. -/
def extents (encoder : Encoder) (parameters : List NativeType) : List Extent :=
  parameters.mapIdx fun position type =>
    encoder.extentAt (encoder.offsetBefore parameters position) type

variable {encoder : Encoder} {parameters : List NativeType}

@[simp]
theorem length_extents (encoder : Encoder) (parameters : List NativeType) :
    (encoder.extents parameters).length = parameters.length :=
  List.length_mapIdx

theorem extents_of_declared
    {position : Nat}
    {type : NativeType}
    (declared : parameters[position]? = some type) :
    (encoder.extents parameters)[position]? =
      some (encoder.extentAt
        (encoder.offsetBefore parameters position) type) := by
  rw [extents, List.getElem?_mapIdx, declared]
  rfl

/-- Every extent is that of a declared parameter. -/
theorem declared_of_extents
    {position : Nat}
    {extent : Extent}
    (known : (encoder.extents parameters)[position]? = some extent) :
    ∃ type, parameters[position]? = some type ∧
      encoder.extentAt (encoder.offsetBefore parameters position) type =
        extent := by
  rw [extents, List.getElem?_mapIdx] at known
  exact Option.map_eq_some_iff.mp known

/-- The extent of a parameter starts at or behind its cursor. -/
theorem offsetBefore_le_start
    {position : Nat}
    {extent : Extent}
    (known : (encoder.extents parameters)[position]? = some extent) :
    encoder.offsetBefore parameters position ≤ extent.start := by
  obtain ⟨type, -, rfl⟩ := declared_of_extents known
  exact encoder.le_align _ type.alignment

namespace NativeFor

variable {platform : Platform} {type : NativeType}

/-- The bytes of a value end at or before the next cursor. -/
theorem finish_extentAt_le
    (native : NativeFor platform encoder)
    (built : BuiltFor platform type)
    (offset : Nat) :
    (encoder.extentAt offset type).finish ≤ encoder.offsetAfter offset type := by
  show encoder.align offset type.alignment + encoder.storedWidth type ≤ _
  rw [storedWidth]
  by_cases padded : type.kind = .struct ∨ type.kind = .longDouble
  · have direct : ¬ (type.kind = .pointer ∨ type.kind = .object) := by
      rcases padded with equal | equal <;> rw [equal] <;> decide
    rw [if_neg direct]
    exact encoder.align_add_size_le padded offset
  · rw [offsetAfter, if_neg padded]
    by_cases address : type.kind = .pointer ∨ type.kind = .object
    · have size : platform.addressWidth.bytes = type.size :=
        congrArg TypeLayout.size (layout_pointer_of_kind built address)
      rw [if_pos address]
      cases native with
      | aligned => exact Nat.add_le_add_left (Nat.le_of_eq size) _
      | stacked => exact Nat.add_le_add_left (Nat.le_max_right _ _) _
    · rw [if_neg address]
      cases native with
      | aligned => exact Nat.le_refl _
      | stacked => exact Nat.add_le_add_left (Nat.le_max_left _ _) _

/-- The extent of a parameter ends before the cursor of any later one. -/
theorem finish_le_offsetBefore
    (native : NativeFor platform encoder)
    (built : ∀ type ∈ parameters, BuiltFor platform type)
    {first last : Nat}
    (before : first < last)
    {extent : Extent}
    (known : (encoder.extents parameters)[first]? = some extent) :
    extent.finish ≤ encoder.offsetBefore parameters last := by
  obtain ⟨type, declared, rfl⟩ := declared_of_extents known
  have member := List.mem_of_getElem? declared
  apply Nat.le_trans (native.finish_extentAt_le (built type member) _)
  rw [← offsetBefore_succ declared]
  exact encoder.offsetBefore_mono parameters before

/-- An extent ends before any later one starts. -/
theorem finish_le_start
    (native : NativeFor platform encoder)
    (built : ∀ type ∈ parameters, BuiltFor platform type)
    {first last : Nat}
    (before : first < last)
    {earlier later : Extent}
    (knownFirst : (encoder.extents parameters)[first]? = some earlier)
    (knownLast : (encoder.extents parameters)[last]? = some later) :
    earlier.finish ≤ later.start :=
  Nat.le_trans (native.finish_le_offsetBefore built before knownFirst)
    (offsetBefore_le_start knownLast)

/-- The extents are in order, and no two of them share a byte. -/
theorem pairwise_extents
    (native : NativeFor platform encoder)
    (built : ∀ type ∈ parameters, BuiltFor platform type) :
    (encoder.extents parameters).Pairwise fun earlier later =>
      earlier.finish ≤ later.start := by
  rw [List.pairwise_iff_getElem]
  intro first last inFirst inLast before
  exact native.finish_le_start built before
    (List.getElem?_eq_getElem inFirst) (List.getElem?_eq_getElem inLast)

/-- Every extent is inside the frame. -/
theorem finish_le_frameSize
    (native : NativeFor platform encoder)
    (built : ∀ type ∈ parameters, BuiltFor platform type)
    {extent : Extent}
    (member : extent ∈ encoder.extents parameters) :
    extent.finish ≤ encoder.frameSize parameters := by
  obtain ⟨position, known⟩ := List.getElem?_of_mem member
  exact Nat.le_trans
    (native.finish_le_offsetBefore built (Nat.lt_succ_self position) known)
    (encoder.offsetBefore_le_frameSize parameters (position + 1))

end NativeFor

/-- Off the stack, an extent starts at a multiple of its alignment and a slot. -/
theorem dvd_start_of_cpu_ne
    {platform : Platform}
    (notStack : platform.cpu ≠ .i386)
    {type : NativeType}
    (power : type.alignment.isPowerOfTwo)
    (offset : Nat) :
    let encoder := select platform true
    max type.alignment encoder.slotSize ∣
      (encoder.extentAt offset type).start := by
  intro encoder
  have chosen :
      encoder = .aligned (.ofPlatform platform) platform.layout :=
    select_of_not_stack notStack
  have slot := (nativeFor_select platform).isPowerOfTwo_slotSize
  have wider : (max type.alignment encoder.slotSize).isPowerOfTwo :=
    isPowerOfTwo_max power slot
  rw [chosen] at wider ⊢
  exact dvd_alignUp wider

/-- On the stack of 32-bit x86 an extent starts at the cursor. -/
theorem start_of_cpu_eq
    {platform : Platform}
    (stack : platform.cpu = .i386)
    (type : NativeType)
    (offset : Nat) :
    ((select platform true).extentAt offset type).start = offset := by
  rw [select_of_stack stack]
  rfl

end Encoder

/-! ## Arguments fill their extents -/

section Filled

variable {platform : Platform} {encoder : Encoder} {type : NativeType}

theorem length_encode_address
    (encoder : Encoder)
    (address : type.kind = .pointer ∨ type.kind = .object)
    (value : UInt64) :
    (encoder.writer.encode (.address value)).length =
      encoder.storedWidth type := by
  rw [Encoder.storedWidth, if_pos address, Writer.length_encode]
  rfl

theorem length_encode_of_accepts
    {value : Primitive}
    (encoder : Encoder)
    (built : BuiltFor platform type)
    (accepted : value.suppliedKind.accepts type = true) :
    (encoder.writer.encode value).length = encoder.storedWidth type := by
  have same := layout_ofPrimitive_of_accepts built accepted
  rw [SuppliedKind.accepts_iff] at accepted
  have plain
      (direct : value.suppliedKind ≠ .address) :
      encoder.storedWidth type = type.size := by
    apply if_neg
    rintro (equal | equal) <;> rw [equal] at accepted <;> cases value <;>
      simp [Primitive.suppliedKind, SuppliedKind.takers] at accepted direct
  cases value with
  | address value =>
      have kind : type.kind = .pointer := List.mem_singleton.mp accepted
      exact length_encode_address encoder (Or.inl kind) value
  | _ =>
      rw [plain (by rintro ⟨⟩), Writer.length_encode]
      exact congrArg TypeLayout.size same

/-- An argument without a defect has as many bytes as the extent. -/
theorem Argument.length_image
    {argument : Argument}
    {index : Nat}
    (native : encoder.NativeFor platform)
    (built : BuiltFor platform type)
    (accepted : argument.suppliedKind.accepts type = true)
    (sound : argument.defect? type index = none) :
    (argument.image encoder type).length = encoder.storedWidth type := by
  have direct
      (padded : type.kind = .struct ∨ type.kind = .longDouble) :
      encoder.storedWidth type = type.size := by
    apply if_neg
    rcases padded with equal | equal <;> simp [equal]
  cases argument with
  | primitive value => exact length_encode_of_accepts encoder built accepted
  | longDouble source =>
      have kind := kind_of_accepts_longDouble accepted
      obtain ⟨bytes, encoded⟩ :=
        Frame.exists_image_of_sound native built kind sound
      rw [image, encoded, direct (Or.inr kind)]
      exact LongDoubleSource.length_of_image encoded
  | array | directBuffer | object | environment | handle =>
      have address := kind_of_accepts_reference accepted
      exact length_encode_address encoder address 0
  | struct bytes offset =>
      rw [image]
      by_cases kind : type.kind = .struct
      · rw [if_pos kind, direct (Or.inl kind)]
        exact length_window (add_size_le_of_sound sound)
      · have pointer := kind_of_accepts_struct accepted kind
        rw [if_neg kind]
        exact length_encode_address encoder (Or.inl pointer) 0
  | structAt address memory =>
      rw [image]
      by_cases kind : type.kind = .struct
      · rw [if_pos kind, direct (Or.inl kind)]
        exact Frame.length_readMemory memory type.size
      · have pointer := kind_of_accepts_struct accepted kind
        rw [if_neg kind]
        exact length_encode_address encoder (Or.inl pointer) address

end Filled

end CallFrame
