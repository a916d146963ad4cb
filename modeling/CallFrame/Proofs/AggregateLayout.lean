import CallFrame.Proofs.BuiltType
import CallFrame.Proofs.Extent

/-!
# The layout of aggregates

The fields of an aggregate can be placed in many ways that keep their order and
their alignments.  C takes the first fit: each field starts at the first
multiple of its alignment that is not before the end of the field in front of
it, and the whole is padded to a multiple of the widest alignment.

What a placement is and what the first fit is are told here without any rounding.
The running end of the fold behind an aggregate is the end of the first fit, and
no placement ends before it, because a field that starts later pushes all that
follows back at most as far.  So the size of an aggregate is the least one that
has room for some placement of its fields.

A field without any bytes keeps its place in the order as well: it starts behind
the field in front of it, and it may push the next one back by its alignment.
-/

namespace CallFrame

/-! ## Placements -/

/-- An extent that a field may have: of its size and at its alignment. -/
structure Extent.Suits (extent : Extent) (field : NativeType) : Prop where
  aligned : field.alignment ∣ extent.start
  width_eq : extent.width = field.size

/-- Extents for fields, in order, without overlap and within a size. -/
structure FieldPlacement
    (fields : List NativeType)
    (size : Nat)
    (extents : List Extent) :
    Prop where
  suits : List.Forall₂ (fun field extent => extent.Suits field) fields extents
  /-- A field starts at or behind the end of every field in front of it. -/
  ordered : extents.Pairwise fun front back => front.finish ≤ back.start
  inside : ∀ extent ∈ extents, extent.finish ≤ size

/-- Every field starts at the first suitable offset behind the one before it. -/
inductive FirstFit : Nat → List NativeType → List Extent → Prop where
  | nil (offset : Nat) : FirstFit offset [] []
  | cons
      {offset : Nat}
      {field : NativeType}
      {extent : Extent}
      {fields : List NativeType}
      {extents : List Extent}
      (first :
        IsLeast {start | offset ≤ start ∧ field.alignment ∣ start}
          extent.start)
      (width_eq : extent.width = field.size)
      (rest : FirstFit extent.finish fields extents) :
      FirstFit offset (field :: fields) (extent :: extents)

/-! ## Types with a layout -/

namespace NativeType

/-- The types that can be described: primitives of any platform, aggregates of a
given layout, and aggregates of such types. -/
inductive Described : NativeType → Prop where
  | primitive
      {kind : Kind}
      {platform : Platform}
      {type : NativeType}
      (made : NativeType.primitive kind platform = .ok type) :
      Described type
  | withLayout
      {size alignment : Nat}
      {type : NativeType}
      (made : aggregateWithLayout size alignment = .ok type) :
      Described type
  | aggregate
      {fields : List NativeType}
      (described : ∀ field ∈ fields, Described field) :
      Described (NativeType.aggregate fields)

/-- The widest alignment, counted from an alignment that is already there. -/
theorem isPowerOfTwo_foldl_max
    {fields : List NativeType}
    (powers : ∀ field ∈ fields, field.alignment.isPowerOfTwo)
    {start : Nat}
    (power : start.isPowerOfTwo) :
    (fields.foldl (fun widest field => max widest field.alignment)
      start).isPowerOfTwo := by
  induction fields generalizing start with
  | nil => exact power
  | cons field rest induction =>
      rw [List.forall_mem_cons] at powers
      exact induction powers.2 (isPowerOfTwo_max power powers.1)

theorem isPowerOfTwo_widestAlignment
    {fields : List NativeType}
    (powers : ∀ field ∈ fields, field.alignment.isPowerOfTwo) :
    (widestAlignment fields).isPowerOfTwo :=
  isPowerOfTwo_foldl_max powers ⟨0, rfl⟩

theorem isPowerOfTwo_of_aggregateWithLayout
    {size alignment : Nat}
    {type : NativeType}
    (made : aggregateWithLayout size alignment = .ok type) :
    type.alignment.isPowerOfTwo := by
  rw [aggregateWithLayout] at made
  split at made
  · rename_i power
    cases made
    refine ⟨alignment.log2, ?_⟩
    rw [← Nat.one_shiftLeft]
    exact power.symm
  · cases made

/-- Every type that can be described is aligned to a power of two. -/
theorem Described.isPowerOfTwo_alignment
    {type : NativeType}
    (described : Described type) :
    type.alignment.isPowerOfTwo := by
  induction described with
  | primitive made => exact (BuiltFor.primitive made).isPowerOfTwo_alignment
  | withLayout made => exact isPowerOfTwo_of_aggregateWithLayout made
  | aggregate described induction => exact isPowerOfTwo_widestAlignment induction

/-! ## The common multiple of the alignments -/

/-- Of two powers of two the larger one is the least common multiple. -/
theorem lcm_eq_max
    {left right : Nat}
    (leftPower : left.isPowerOfTwo)
    (rightPower : right.isPowerOfTwo) :
    Nat.lcm left right = max left right := by
  rcases Nat.le_total left right with le | le
  · rw [max_eq_right le]
    exact Nat.lcm_eq_right (dvd_of_isPowerOfTwo_of_le leftPower rightPower le)
  · rw [max_eq_left le]
    exact Nat.lcm_eq_left (dvd_of_isPowerOfTwo_of_le rightPower leftPower le)

theorem foldl_max_eq_lcm
    {fields : List NativeType}
    (powers : ∀ field ∈ fields, field.alignment.isPowerOfTwo)
    {start : Nat}
    (power : start.isPowerOfTwo) :
    fields.foldl (fun widest field => max widest field.alignment) start =
      Nat.lcm start ((fields.map alignment).foldr Nat.lcm 1) := by
  induction fields generalizing start with
  | nil => exact (Nat.lcm_one_right start).symm
  | cons field rest induction =>
      rw [List.forall_mem_cons] at powers
      rw [List.foldl_cons, List.map_cons, List.foldr_cons,
        induction powers.2 (isPowerOfTwo_max power powers.1),
        ← lcm_eq_max power powers.1, Nat.lcm_assoc]

theorem widestAlignment_eq_lcm
    {fields : List NativeType}
    (powers : ∀ field ∈ fields, field.alignment.isPowerOfTwo) :
    widestAlignment fields = (fields.map alignment).foldr Nat.lcm 1 := by
  rw [widestAlignment, foldl_max_eq_lcm powers ⟨0, rfl⟩, Nat.lcm_one_left]

/-! ## The first fit -/

/-- The extents of fields that are placed one by one from an offset on. -/
def fieldExtents (offset : Nat) : List NativeType → List Extent
  | [] => []
  | field :: rest =>
    ⟨alignUp offset field.alignment, field.size⟩ ::
      fieldExtents (offsetAfter offset field) rest

theorem firstFit_fieldExtents
    {fields : List NativeType}
    (powers : ∀ field ∈ fields, field.alignment.isPowerOfTwo)
    (offset : Nat) :
    FirstFit offset fields (fieldExtents offset fields) := by
  induction fields generalizing offset with
  | nil => exact .nil offset
  | cons field rest induction =>
      rw [List.forall_mem_cons] at powers
      exact .cons (isLeast_alignUp powers.1 offset) rfl
        (induction powers.2 (offsetAfter offset field))

end NativeType

namespace FirstFit

variable {offset : Nat} {fields : List NativeType} {extents : List Extent}

theorem suits (fit : FirstFit offset fields extents) :
    List.Forall₂ (fun field extent => extent.Suits field) fields extents := by
  induction fit with
  | nil offset => exact .nil
  | cons first width_eq rest induction =>
      exact .cons ⟨first.1.2, width_eq⟩ induction

theorem le_start (fit : FirstFit offset fields extents) :
    ∀ extent ∈ extents, offset ≤ extent.start := by
  induction fit with
  | nil offset => exact List.forall_mem_nil _
  | cons first width_eq rest induction =>
      rw [List.forall_mem_cons]
      refine ⟨first.1.1, fun later member => ?_⟩
      exact first.1.1.trans
        ((Nat.le_add_right _ _).trans (induction later member))

theorem ordered (fit : FirstFit offset fields extents) :
    extents.Pairwise fun front back => front.finish ≤ back.start := by
  induction fit with
  | nil offset => exact .nil
  | cons first width_eq rest induction =>
      exact .cons rest.le_start induction

end FirstFit

namespace NativeType

/-! ## The size of an aggregate -/

variable {fields : List NativeType}

theorem le_foldl_offsetAfter (fields : List NativeType) (offset : Nat) :
    offset ≤ fields.foldl offsetAfter offset := by
  induction fields generalizing offset with
  | nil => exact Nat.le_refl offset
  | cons field rest induction =>
      exact (le_alignUp offset field.alignment).trans
        ((Nat.le_add_right _ field.size).trans (induction _))

theorem finish_le_foldl_offsetAfter
    (fields : List NativeType)
    (offset : Nat) :
    ∀ extent ∈ fieldExtents offset fields,
      extent.finish ≤ fields.foldl offsetAfter offset := by
  induction fields generalizing offset with
  | nil => exact List.forall_mem_nil _
  | cons field rest induction =>
      exact List.forall_mem_cons.mpr
        ⟨le_foldl_offsetAfter rest _, induction _⟩

/-- No placement of fields behind an offset ends before their running end. -/
theorem foldl_offsetAfter_le
    {size : Nat}
    {extents : List Extent}
    (powers : ∀ field ∈ fields, field.alignment.isPowerOfTwo)
    (placement : FieldPlacement fields size extents)
    {offset : Nat}
    (behind : ∀ extent ∈ extents, offset ≤ extent.start)
    (room : offset ≤ size) :
    fields.foldl offsetAfter offset ≤ size := by
  obtain ⟨suits, ordered, inside⟩ := placement
  induction suits generalizing offset with
  | nil => exact room
  | @cons field extent fields extents suited suits induction =>
      rw [List.forall_mem_cons] at powers behind inside
      rw [List.pairwise_cons] at ordered
      have start : alignUp offset field.alignment ≤ extent.start :=
        alignUp_le_of_dvd powers.1 suited.aligned behind.1
      have step : offsetAfter offset field ≤ extent.finish := by
        rw [offsetAfter, ← suited.width_eq]
        exact Nat.add_le_add_right start extent.width
      exact induction powers.2
        (fun later member => step.trans (ordered.1 later member))
        (step.trans inside.1) ordered.2 inside.2

theorem fieldPlacement_fieldExtents
    (powers : ∀ field ∈ fields, field.alignment.isPowerOfTwo)
    {size : Nat}
    (room : fields.foldl offsetAfter 0 ≤ size) :
    FieldPlacement fields size (fieldExtents 0 fields) := by
  have fit := firstFit_fieldExtents powers 0
  refine ⟨fit.suits, fit.ordered, fun extent member => ?_⟩
  exact (finish_le_foldl_offsetAfter fields 0 extent member).trans room

/--
The fields of an aggregate are laid out by the rules of C.  The alignment is the
least common multiple of the alignments of the fields, which are all powers of
two.  The first fit of the fields has room in the size, and among the multiples
of the alignment the size is the least one with room for any placement at all.
-/
theorem aggregate_isLeast
    (described : ∀ field ∈ fields, Described field) :
    (aggregate fields).alignment.isPowerOfTwo ∧
      (aggregate fields).alignment = (fields.map alignment).foldr Nat.lcm 1 ∧
      (aggregate fields).alignment ∣ (aggregate fields).size ∧
      (∃ extents,
        FirstFit 0 fields extents ∧
          FieldPlacement fields (aggregate fields).size extents) ∧
      IsLeast
        {size |
          (aggregate fields).alignment ∣ size ∧
            ∃ extents, FieldPlacement fields size extents}
        (aggregate fields).size := by
  have powers (field : NativeType) (member : field ∈ fields) :
      field.alignment.isPowerOfTwo :=
    (described field member).isPowerOfTwo_alignment
  have power : (aggregate fields).alignment.isPowerOfTwo :=
    isPowerOfTwo_widestAlignment powers
  have aligned : (aggregate fields).alignment ∣ (aggregate fields).size :=
    dvd_alignUp power
  have placed :=
    fieldPlacement_fieldExtents powers
      (le_alignUp (fields.foldl offsetAfter 0) (widestAlignment fields))
  refine ⟨power, widestAlignment_eq_lcm powers, aligned,
    ⟨_, firstFit_fieldExtents powers 0, placed⟩, ⟨aligned, _, placed⟩, ?_⟩
  rintro size ⟨multiple, extents, placement⟩
  apply alignUp_le_of_dvd power multiple
  exact foldl_offsetAfter_le powers placement
    (fun extent _ => Nat.zero_le extent.start) (Nat.zero_le size)

/--
Fields of several platforms, among them an aggregate, an aggregate whose size is
no multiple of its alignment and one without any bytes.
-/
def mixedFields : List NativeType :=
  [⟨.sint8, 1, 1⟩, aggregate [⟨.sint32, 4, 4⟩, ⟨.sint64, 8, 4⟩],
    ⟨.struct, 5, 2⟩, ⟨.struct, 0, 16⟩, ⟨.longDouble, 12, 4⟩]

theorem described_mixedFields : ∀ field ∈ mixedFields, Described field := by
  have made (kind : Kind) (platform : Platform) (type : NativeType)
      (equal : primitive kind platform = .ok type) : Described type :=
    .primitive equal
  have given (size alignment : Nat) (type : NativeType)
      (equal : aggregateWithLayout size alignment = .ok type) :
      Described type :=
    .withLayout equal
  simp only [mixedFields, List.forall_mem_cons]
  refine ⟨made .sint8 (.ofFamily .s390x .linux) _ rfl, .aggregate ?_,
    given 5 2 _ rfl, given 0 16 _ rfl,
    made .longDouble (.ofFamily .i386 .linux) _ rfl, List.forall_mem_nil _⟩
  simp only [List.forall_mem_cons]
  exact ⟨made .sint32 (.ofFamily .arm .linux) _ rfl,
    made .sint64 (.ofFamily .i386 .freeBsd) _ rfl, List.forall_mem_nil _⟩

theorem mixedFields_isLeast :
    aggregate mixedFields = ⟨.struct, 48, 16⟩ ∧
      IsLeast
        {size |
          16 ∣ size ∧ ∃ extents, FieldPlacement mixedFields size extents}
        48 :=
  ⟨by decide, (aggregate_isLeast described_mixedFields).2.2.2.2⟩

end NativeType

end CallFrame
