import CallFrame.Argument
import CallFrame.Encoder
import CallFrame.Proofs.Alignment

/-!
# Types that are built for a platform

A signature is written for a platform: its primitives have the size and the
alignment that the platform gives them, while an aggregate may have any size
and any power of two as its alignment.

The puts of a frame never see a declared type.  They take the layout of the
primitive that the argument supplies.  For a type that is built for the
platform and takes the argument, the two are the same layout, although several
declared kinds take one kind of argument and `long` shares its size with
another integer.
-/

namespace CallFrame

/-! ## Layouts of a platform -/

theorem isPowerOfTwo_of_eq_four_or_eight
    {value : Nat}
    (known : value = 4 ∨ value = 8) :
    value.isPowerOfTwo := by
  rcases known with rfl | rfl
  · exact ⟨2, rfl⟩
  · exact ⟨3, rfl⟩

theorem AddressWidth.bytes_eq (width : AddressWidth) :
    width.bytes = 4 ∨ width.bytes = 8 := by
  cases width
  · exact Or.inl rfl
  · exact Or.inr rfl

namespace Platform

theorem wideAlignment_eq (platform : Platform) :
    platform.wideAlignment = 4 ∨ platform.wideAlignment = 8 := by
  unfold wideAlignment
  split <;> decide

theorem isPowerOfTwo_wideAlignment (platform : Platform) :
    platform.wideAlignment.isPowerOfTwo :=
  isPowerOfTwo_of_eq_four_or_eight platform.wideAlignment_eq

theorem isPowerOfTwo_longAlignment (platform : Platform) :
    platform.layout.long.alignment.isPowerOfTwo := by
  have word := isPowerOfTwo_of_eq_four_or_eight platform.longWidth.bytes_eq
  have wide := platform.isPowerOfTwo_wideAlignment
  show (min platform.longWidth.bytes platform.wideAlignment).isPowerOfTwo
  rcases min_choice platform.longWidth.bytes platform.wideAlignment with
    equal | equal <;> rw [equal] <;> assumption

theorem isPowerOfTwo_longDoubleAlignment (platform : Platform) :
    platform.layout.longDouble.alignment.isPowerOfTwo := by
  have wide : platform.doubleLayout.alignment.isPowerOfTwo :=
    platform.isPowerOfTwo_wideAlignment
  show platform.longDoubleLayout.1.alignment.isPowerOfTwo
  unfold longDoubleLayout
  split <;> first | exact wide | decide

/-- The declared size of `long double` holds the bytes of its format. -/
theorem encodedLength_le_size (platform : Platform) :
    platform.layout.longDoubleFormat.encodedLength ≤
      platform.layout.longDouble.size := by
  show platform.longDoubleLayout.2.encodedLength ≤
    platform.longDoubleLayout.1.size
  unfold longDoubleLayout
  split <;> simp [doubleLayout, LongDoubleFormat.encodedLength]

/-- Every kind is aligned to a power of two. -/
theorem isPowerOfTwo_alignment
    {platform : Platform}
    {kind : Kind}
    {layout : TypeLayout}
    (known : kind.layout? platform = some layout) :
    layout.alignment.isPowerOfTwo := by
  match kind, known with
  | .void, rfl | .sint8, rfl | .uint8, rfl => exact ⟨0, rfl⟩
  | .sint16, rfl | .uint16, rfl => exact ⟨1, rfl⟩
  | .sint32, rfl | .uint32, rfl | .float, rfl => exact ⟨2, rfl⟩
  | .slong, rfl | .ulong, rfl => exact platform.isPowerOfTwo_longAlignment
  | .sint64, rfl | .uint64, rfl | .double, rfl =>
      exact platform.isPowerOfTwo_wideAlignment
  | .longDouble, rfl => exact platform.isPowerOfTwo_longDoubleAlignment
  | .pointer, rfl | .object, rfl =>
      exact isPowerOfTwo_of_eq_four_or_eight platform.addressWidth.bytes_eq

theorem layout_long_of_four
    {platform : Platform}
    (size : platform.layout.long.size = 4) :
    platform.layout.long = platform.layout.sint32 := by
  have word : platform.longWidth.bytes = 4 := size
  show TypeLayout.mk platform.longWidth.bytes
    (min platform.longWidth.bytes platform.wideAlignment) = _
  rw [word]
  rcases platform.wideAlignment_eq with wide | wide <;> rw [wide] <;> rfl

theorem layout_long_of_eight
    {platform : Platform}
    (size : platform.layout.long.size = 8) :
    platform.layout.long = platform.layout.sint64 := by
  have word : platform.longWidth.bytes = 8 := size
  show TypeLayout.mk platform.longWidth.bytes
    (min platform.longWidth.bytes platform.wideAlignment) =
      ⟨8, platform.wideAlignment⟩
  rw [word]
  rcases platform.wideAlignment_eq with wide | wide <;> rw [wide] <;> rfl

end Platform

/-! ## Built types -/

/-- The types that a signature for a platform is made of. -/
inductive NativeType.BuiltFor (platform : Platform) : NativeType → Prop where
  | primitive
      {kind : Kind}
      {type : NativeType}
      (made : NativeType.primitive kind platform = .ok type) :
      BuiltFor platform type
  | aggregate
      (size alignment : Nat)
      (power : alignment.isPowerOfTwo) :
      BuiltFor platform ⟨.struct, size, alignment⟩

open NativeType (BuiltFor)

namespace NativeType.BuiltFor

variable {platform : Platform} {type : NativeType}

/-- A built type other than an aggregate has the layout of its kind. -/
theorem layout_of_ne_struct
    (built : BuiltFor platform type)
    (notStruct : type.kind ≠ .struct) :
    type.kind.layout? platform = some ⟨type.size, type.alignment⟩ := by
  cases built with
  | primitive made =>
      rw [NativeType.primitive] at made
      split at made
      · rename_i layout known
        cases made
        exact known
      · cases made
  | aggregate size alignment power => exact (notStruct rfl).elim

theorem eq_layout
    {layout : TypeLayout}
    (built : BuiltFor platform type)
    (known : type.kind.layout? platform = some layout) :
    layout = ⟨type.size, type.alignment⟩ := by
  have notStruct : type.kind ≠ .struct := by
    intro equal
    rw [equal] at known
    cases known
  rw [built.layout_of_ne_struct notStruct] at known
  exact (Option.some.inj known).symm

theorem isPowerOfTwo_alignment (built : BuiltFor platform type) :
    type.alignment.isPowerOfTwo := by
  cases built with
  | primitive made =>
      rw [NativeType.primitive] at made
      split at made
      · rename_i layout known
        cases made
        exact Platform.isPowerOfTwo_alignment known
      · cases made
  | aggregate size alignment power => exact power

end NativeType.BuiltFor

/-! ## Types that take an argument -/

/-- The declared kinds that take a supplied kind, for types of a size. -/
def SuppliedKind.takers (size : Nat) : SuppliedKind → List Kind
  | byte => [.sint8, .uint8]
  | short => [.sint16, .uint16]
  | int => [.sint32, .uint32] ++ if size = 4 then [.slong, .ulong] else []
  | long => [.sint64, .uint64] ++ if size = 8 then [.slong, .ulong] else []
  | float => [.float]
  | double => [.double]
  | longDouble => [.longDouble]
  | address => [.pointer]
  | reference => [.pointer, .object]
  | struct => [.struct, .pointer]

theorem SuppliedKind.accepts_iff
    {supplied : SuppliedKind}
    {type : NativeType} :
    supplied.accepts type = true ↔ type.kind ∈ supplied.takers type.size := by
  rcases type with ⟨kind, size, alignment⟩
  cases supplied <;> cases kind <;> simp [accepts, takers]

section Accepted

variable {platform : Platform} {type : NativeType}

/-- A pointer or an object has the layout of an address. -/
theorem layout_pointer_of_kind
    (built : BuiltFor platform type)
    (kind : type.kind = .pointer ∨ type.kind = .object) :
    platform.layout.pointer = ⟨type.size, type.alignment⟩ := by
  rcases kind with equal | equal <;>
    exact built.eq_layout (by rw [equal]; rfl)

theorem layout_longDouble_of_kind
    (built : BuiltFor platform type)
    (kind : type.kind = .longDouble) :
    platform.layout.longDouble = ⟨type.size, type.alignment⟩ :=
  built.eq_layout (by rw [kind]; rfl)

/-- A type of a `long` kind has the layout of `long`. -/
theorem layout_long_of_kind
    (built : BuiltFor platform type)
    (kind : type.kind = .slong ∨ type.kind = .ulong) :
    platform.layout.long = ⟨type.size, type.alignment⟩ := by
  rcases kind with equal | equal <;>
    exact built.eq_layout (by rw [equal]; rfl)

/-- A built type that takes a primitive has the layout of that primitive. -/
theorem layout_ofPrimitive_of_accepts
    {value : Primitive}
    (built : BuiltFor platform type)
    (accepted : value.suppliedKind.accepts type = true) :
    platform.layout.ofPrimitive value = ⟨type.size, type.alignment⟩ := by
  rw [SuppliedKind.accepts_iff] at accepted
  cases value with
  | byte value =>
      have kind : type.kind = .sint8 ∨ type.kind = .uint8 := by
        simpa [Primitive.suppliedKind, SuppliedKind.takers] using accepted
      rcases kind with equal | equal <;>
        exact built.eq_layout (by rw [equal]; rfl)
  | short value =>
      have kind : type.kind = .sint16 ∨ type.kind = .uint16 := by
        simpa [Primitive.suppliedKind, SuppliedKind.takers] using accepted
      rcases kind with equal | equal <;>
        exact built.eq_layout (by rw [equal]; rfl)
  | int value =>
      have kind :
          type.kind = .sint32 ∨ type.kind = .uint32 ∨
            type.size = 4 ∧ (type.kind = .slong ∨ type.kind = .ulong) := by
        simpa [Primitive.suppliedKind, SuppliedKind.takers] using accepted
      rcases kind with equal | equal | ⟨size, long⟩
      · exact built.eq_layout (by rw [equal]; rfl)
      · exact built.eq_layout (by rw [equal]; rfl)
      · have equal := layout_long_of_kind built long
        have four : platform.layout.long.size = 4 := by rw [equal, size]
        rw [← equal, Platform.layout_long_of_four four]
        rfl
  | long value =>
      have kind :
          type.kind = .sint64 ∨ type.kind = .uint64 ∨
            type.size = 8 ∧ (type.kind = .slong ∨ type.kind = .ulong) := by
        simpa [Primitive.suppliedKind, SuppliedKind.takers] using accepted
      rcases kind with equal | equal | ⟨size, long⟩
      · exact built.eq_layout (by rw [equal]; rfl)
      · exact built.eq_layout (by rw [equal]; rfl)
      · have equal := layout_long_of_kind built long
        have eight : platform.layout.long.size = 8 := by rw [equal, size]
        rw [← equal, Platform.layout_long_of_eight eight]
        rfl
  | float pattern =>
      have kind : type.kind = .float := by
        simpa [Primitive.suppliedKind, SuppliedKind.takers] using accepted
      exact built.eq_layout (by rw [kind]; rfl)
  | double pattern =>
      have kind : type.kind = .double := by
        simpa [Primitive.suppliedKind, SuppliedKind.takers] using accepted
      exact built.eq_layout (by rw [kind]; rfl)
  | address value =>
      have kind : type.kind = .pointer := by
        simpa [Primitive.suppliedKind, SuppliedKind.takers] using accepted
      exact layout_pointer_of_kind built (Or.inl kind)

/-- Only a type that is neither a struct nor a `long double` takes a primitive. -/
theorem kind_of_accepts_primitive
    {value : Primitive}
    (accepted : value.suppliedKind.accepts type = true) :
    ¬ (type.kind = .struct ∨ type.kind = .longDouble) := by
  rw [SuppliedKind.accepts_iff] at accepted
  rintro (equal | equal) <;> rw [equal] at accepted <;> cases value <;>
    simp [Primitive.suppliedKind, SuppliedKind.takers] at accepted

/-- What is passed by reference is taken by a pointer or an object. -/
theorem kind_of_accepts_reference
    (accepted : SuppliedKind.reference.accepts type = true) :
    type.kind = .pointer ∨ type.kind = .object := by
  rw [SuppliedKind.accepts_iff] at accepted
  simpa [SuppliedKind.takers] using accepted

theorem kind_of_accepts_longDouble
    (accepted : SuppliedKind.longDouble.accepts type = true) :
    type.kind = .longDouble := by
  rw [SuppliedKind.accepts_iff] at accepted
  exact List.mem_singleton.mp accepted

/-- A type other than a struct that takes a struct is a pointer. -/
theorem kind_of_accepts_struct
    (accepted : SuppliedKind.struct.accepts type = true)
    (notStruct : type.kind ≠ .struct) :
    type.kind = .pointer := by
  rw [SuppliedKind.accepts_iff] at accepted
  rcases List.mem_cons.mp accepted with equal | pointer
  · exact (notStruct equal).elim
  · exact List.mem_singleton.mp pointer

end Accepted

end CallFrame
