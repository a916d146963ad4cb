import CallFrame.Proofs.Native.Extent

/-!
# The size of a stack frame

On the stack of 32-bit x86 a parameter starts at the cursor, whatever its
alignment, and moves it by a number of bytes that depends on its kind and size
alone.  The walk over the types is therefore a running sum.

The size of the frame is the end of that walk, rounded up to a slot.  There is
nothing to round: the primitives of every platform have a size of at most four
bytes or of eight, so that each parameter takes whole slots, and every cursor of
the walk is a multiple of the slot.  Without this the size of two frames that are
joined would not be the sum of their sizes.
-/

namespace CallFrame

/-- The bytes that a parameter takes on the stack: a struct and a `long double`
their size rounded up to four, everything else its size and at least four. -/
def Kind.stackBytes (kind : Kind) (size : Nat) : Nat :=
  if kind = .struct ∨ kind = .longDouble then (size + 3) / 4 * 4
  else max size 4

namespace NativeType

/-- The bytes that a parameter of a type takes on the stack. -/
def stackBytes (type : NativeType) : Nat :=
  type.kind.stackBytes type.size

/-- A primitive of some platform, or an aggregate of any size and alignment. -/
inductive OfAnyPlatform : NativeType → Prop where
  | primitive
      {kind : Kind}
      {platform : Platform}
      {type : NativeType}
      (made : NativeType.primitive kind platform = .ok type) :
      OfAnyPlatform type
  | aggregate (size alignment : Nat) : OfAnyPlatform ⟨.struct, size, alignment⟩

/-- A parameter takes whole slots. -/
theorem OfAnyPlatform.slot_dvd_stackBytes
    {type : NativeType}
    (made : type.OfAnyPlatform) :
    Encoder.stackSlot ∣ type.stackBytes := by
  rw [stackBytes, Kind.stackBytes]
  by_cases padded : type.kind = .struct ∨ type.kind = .longDouble
  · rw [if_pos padded]
    exact Nat.dvd_mul_left _ _
  · rw [if_neg padded]
    rw [not_or] at padded
    cases made with
    | primitive made =>
        have known :=
          (BuiltFor.primitive made).layout_of_ne_struct padded.1
        exact Encoder.NativeFor.stackSlot_dvd_size known padded.2
    | aggregate size alignment => exact absurd rfl padded.1

theorem slot_dvd_sum_stackBytes
    {types : List NativeType}
    (made : ∀ type ∈ types, type.OfAnyPlatform) :
    Encoder.stackSlot ∣ (types.map stackBytes).sum := by
  apply List.dvd_sum
  intro bytes member
  obtain ⟨type, among, rfl⟩ := List.mem_map.mp member
  exact (made type among).slot_dvd_stackBytes

/-- Kinds and sizes tell the bytes that are taken, without the alignments. -/
theorem map_stackBytes_congr
    {left right : List NativeType}
    (same :
      left.map (fun type => (type.kind, type.size)) =
        right.map fun type => (type.kind, type.size)) :
    left.map stackBytes = right.map stackBytes := by
  have factored (types : List NativeType) :
      types.map stackBytes =
        (types.map fun type => (type.kind, type.size)).map
          fun pair => pair.1.stackBytes pair.2 := by
    rw [List.map_map]
    rfl
  rw [factored, factored, same]

end NativeType

open NativeType (OfAnyPlatform stackBytes)

namespace Encoder

variable {layout : PrimitiveLayout}

theorem offsetAfter_stacked (offset : Nat) (type : NativeType) :
    (stacked layout).offsetAfter offset type = offset + type.stackBytes := by
  have rounded : alignUp type.size stackSlot = (type.size + 3) / 4 * 4 :=
    alignUp_two_pow type.size 2
  rw [offsetAfter, stackBytes, Kind.stackBytes]
  by_cases padded : type.kind = .struct ∨ type.kind = .longDouble
  · rw [if_pos padded, if_pos padded]
    exact congrArg (offset + ·) rounded
  · rw [if_neg padded, if_neg padded]
    rfl

/-- The walk over the types is a running sum. -/
theorem foldl_offsetAfter_stacked (types : List NativeType) (offset : Nat) :
    types.foldl (stacked layout).offsetAfter offset =
      offset + (types.map stackBytes).sum := by
  induction types generalizing offset with
  | nil => rfl
  | cons type rest induction =>
      rw [List.foldl_cons, induction, offsetAfter_stacked, List.map_cons,
        List.sum_cons, Nat.add_assoc]

end Encoder

section Stack

variable {platform : Platform} {types : List NativeType}

theorem rawParameterSize_eq_alignUp
    (stack : platform.cpu = .i386)
    (types : List NativeType) :
    rawParameterSize types platform =
      alignUp (types.map stackBytes).sum Encoder.stackSlot := by
  rw [rawParameterSize, Encoder.select_of_stack stack,
    Encoder.frameSize, Encoder.foldl_offsetAfter_stacked, Nat.zero_add]
  rfl

/-- The end of the walk is a multiple of the slot and stays where it is. -/
theorem rawParameterSize_of_stack
    (stack : platform.cpu = .i386)
    (made : ∀ type ∈ types, type.OfAnyPlatform) :
    rawParameterSize types platform = (types.map stackBytes).sum := by
  rw [rawParameterSize_eq_alignUp stack]
  exact alignUp_of_dvd ⟨2, rfl⟩ (NativeType.slot_dvd_sum_stackBytes made)

/-- A parameter starts where the frame of the parameters in front of it ends. -/
theorem start_eq_rawParameterSize
    (stack : platform.cpu = .i386)
    (made : ∀ type ∈ types, type.OfAnyPlatform)
    {position : Nat}
    {extent : Extent}
    (known :
      ((Encoder.select platform true).extents types)[position]? =
        some extent) :
    extent.start = rawParameterSize (types.take position) platform := by
  have front : ∀ type ∈ types.take position, type.OfAnyPlatform :=
    fun type member => made type (List.mem_of_mem_take member)
  obtain ⟨type, -, rfl⟩ := Encoder.declared_of_extents known
  rw [Encoder.start_of_cpu_eq stack, rawParameterSize_of_stack stack front,
    Encoder.offsetBefore, Encoder.select_of_stack stack,
    Encoder.foldl_offsetAfter_stacked, Nat.zero_add]

/--
On 32-bit x86 the size of a native frame is additive, and it is the sum of the
bytes of the parameters.  Their order and their alignments make no difference,
and every parameter starts where the ones in front of it end.
-/
theorem stack_size_is_sum (stack : platform.cpu = .i386) :
    (∀ left right : List NativeType,
        (∀ type ∈ left, type.OfAnyPlatform) →
          (∀ type ∈ right, type.OfAnyPlatform) →
            rawParameterSize (left ++ right) platform =
              rawParameterSize left platform +
                rawParameterSize right platform) ∧
      ∀ types : List NativeType, (∀ type ∈ types, type.OfAnyPlatform) →
        rawParameterSize types platform = (types.map stackBytes).sum ∧
          (∀ permuted, permuted.Perm types →
            rawParameterSize permuted platform =
              rawParameterSize types platform) ∧
          (∀ changed : List NativeType,
            changed.map (fun type => (type.kind, type.size)) =
                types.map (fun type => (type.kind, type.size)) →
              rawParameterSize changed platform =
                rawParameterSize types platform) ∧
          ∀ position extent,
            ((Encoder.select platform true).extents types)[position]? =
                some extent →
              extent.start =
                rawParameterSize (types.take position) platform := by
  constructor
  · intro left right madeLeft madeRight
    have made : ∀ type ∈ left ++ right, type.OfAnyPlatform :=
      List.forall_mem_append.mpr ⟨madeLeft, madeRight⟩
    rw [rawParameterSize_of_stack stack made,
      rawParameterSize_of_stack stack madeLeft,
      rawParameterSize_of_stack stack madeRight, List.map_append,
      List.sum_append]
  · intro types made
    refine ⟨rawParameterSize_of_stack stack made, ?_, ?_, ?_⟩
    · intro permuted order
      have madePermuted : ∀ type ∈ permuted, type.OfAnyPlatform :=
        fun type member => made type (order.mem_iff.mp member)
      rw [rawParameterSize_of_stack stack made,
        rawParameterSize_of_stack stack madePermuted,
        (order.map stackBytes).sum_eq]
    · intro changed same
      rw [rawParameterSize_eq_alignUp stack, rawParameterSize_eq_alignUp stack,
        NativeType.map_stackBytes_congr same]
    · intro position extent known
      exact start_eq_rawParameterSize stack made known

/-- Types of several platforms, one of them aligned to more than it takes. -/
def foreignTypes : List NativeType :=
  [⟨.sint8, 1, 1⟩, ⟨.pointer, 8, 8⟩, ⟨.longDouble, 16, 16⟩, ⟨.struct, 5, 64⟩,
    ⟨.void, 0, 1⟩]

theorem ofAnyPlatform_foreignTypes :
    ∀ type ∈ foreignTypes, type.OfAnyPlatform := by
  have made (kind : Kind) (platform : Platform) (type : NativeType)
      (equal : NativeType.primitive kind platform = .ok type) :
      type.OfAnyPlatform :=
    .primitive equal
  simp only [foreignTypes, List.forall_mem_cons]
  exact ⟨made .sint8 (.ofFamily .s390x .linux) _ rfl,
    made .pointer (.ofFamily .x86_64 .freeBsd) _ rfl,
    made .longDouble (.ofFamily .i386 .darwin) _ rfl, .aggregate 5 64,
    made .void (.ofFamily .arm .linux) _ rfl, List.forall_mem_nil _⟩

/-- A stack with wide addresses, and the same types the other way round. -/
theorem foreignTypes_size_is_sum :
    let platform : Platform := ⟨.i386, .windows, .w64, .bigEndian⟩
    rawParameterSize foreignTypes platform = 40 ∧
      rawParameterSize foreignTypes.reverse platform = 40 ∧
      rawParameterSize (foreignTypes ++ foreignTypes) platform = 80 := by
  intro platform
  have stack : platform.cpu = .i386 := rfl
  obtain ⟨additive, total⟩ := stack_size_is_sum stack
  obtain ⟨sum, permuted, -, -⟩ := total foreignTypes ofAnyPlatform_foreignTypes
  have size : rawParameterSize foreignTypes platform = 40 := sum.trans rfl
  refine ⟨size, ?_, ?_⟩
  · rw [permuted _ foreignTypes.reverse_perm, size]
  · rw [additive foreignTypes foreignTypes ofAnyPlatform_foreignTypes
      ofAnyPlatform_foreignTypes, size]

end Stack

end CallFrame
