import CallFrame.Proofs.Tail

/-!
# The registration of payloads

What is passed by address is registered while the frame is packed.  Which
arguments these are depends on the encoder and on the declared type: arrays,
memory, objects and handles always are, structs unless a native frame takes them
by value, and a `long double` in a slotted frame only.  What an argument is
registered with is the entry `Argument.registration?`.

The table of a run is what the accepted arguments are registered with, in order,
and nothing else: `Frame.Registered` says so, and a put that succeeds keeps it.
All the rest is read off that list.  The index of an entry is the position of its
argument, so the indices grow and an entry is found by its index.  The window of
an entry is inside its source because it has been put, and its slot is blank
because a zero address is not written and no later put comes back to it.
-/

namespace CallFrame

/-! ## Entries of arguments -/

namespace Argument

/-- Whether an argument for a parameter of a type is passed by address. -/
def byAddress
    (argument : Argument)
    (encoder : Encoder)
    (type? : Option NativeType) :
    Bool :=
  match argument with
  | .primitive _ | .structAt _ _ => false
  | .longDouble _ => !encoder.isRaw
  | .struct _ _ => !(encoder.isRaw && type?.any (·.kind = .struct))
  | .array _ _ _ _ | .directBuffer _ _ _ | .object _ _ _ _ | .environment
  | .handle _ => true

/--
The entry that an argument is registered with.  A `long double` is encoded to
bytes of its own, and a struct has the size of the declared type.
-/
def registration?
    (argument : Argument)
    (encoder : Encoder)
    (type? : Option NativeType)
    (index : Nat) :
    Option Entry :=
  if argument.byAddress encoder type? then
    match argument with
    | .longDouble source =>
      let size := encoder.layout.longDouble.size
      match source.encode encoder.layout.longDoubleFormat encoder.byteOrder
          (List.replicate size 0) with
      | .ok () bytes => some ⟨index, .array (.scratch bytes), 0, size, .input⟩
      | .error _ _ => none
    | .struct bytes offset =>
      type?.map fun type => ⟨index, .struct bytes, offset, type.size, .input⟩
    | .primitive _ | .array _ _ _ _ | .directBuffer _ _ _ | .object _ _ _ _
    | .environment | .handle _ | .structAt _ _ => argument.reference? index
  else
    none

end Argument

namespace Frame

section Ways

variable {frame : Frame} {argument : Argument} {passage : Passage}

/-- A struct is placed in a native frame, by the type that is declared. -/
theorem isSome_structPlacement (frame : Frame) (type : NativeType) :
    (frame.structPlacement? type).isSome =
      (frame.encoder.isRaw && (type.kind = .struct : Bool)) := by
  rw [structPlacement?, Encoder.structPlacement?]
  by_cases struct : type.kind = .struct
  · cases raw : frame.encoder.isRaw <;> simp [struct]
  · simp [struct]

theorem isSome_longDoublePlacement (encoder : Encoder) (offset : Nat) :
    (encoder.longDoublePlacement? offset).isSome = encoder.isRaw := by
  rw [Encoder.longDoublePlacement?]
  cases raw : encoder.isRaw <;> simp

/-- A struct is passed by address where it has no place. -/
theorem byAddress_struct
    {type : NativeType}
    (declared : frame.signature.parameterType? frame.index = some type)
    (bytes : List UInt8)
    (offset : Nat) :
    (Argument.struct bytes offset).byAddress frame.encoder
        (frame.signature.parameterType? frame.index) =
      (frame.structPlacement? type).isNone := by
  rw [Argument.byAddress, declared, Option.any_some, ← isSome_structPlacement,
    Option.not_isSome]

theorem byAddress_longDouble
    (source : LongDoubleSource)
    (frame : Frame)
    (type? : Option NativeType) :
    (Argument.longDouble source).byAddress frame.encoder type? =
      (frame.encoder.longDoublePlacement? frame.offset).isNone := by
  rw [Argument.byAddress, ← isSome_longDoublePlacement _ frame.offset,
    Option.not_isSome]

/-- The entry of a `long double` that is encoded to bytes of its own. -/
theorem registration?_longDouble
    {encoder : Encoder}
    {source : LongDoubleSource}
    {type? : Option NativeType}
    {bytes : List UInt8}
    (address : (Argument.longDouble source).byAddress encoder type? = true)
    (made :
      source.image encoder.layout.longDoubleFormat encoder.byteOrder
        encoder.layout.longDouble.size = .ok bytes)
    (index : Nat) :
    (Argument.longDouble source).registration? encoder type? index =
      some ⟨index, .array (.scratch bytes), 0,
        encoder.layout.longDouble.size, .input⟩ := by
  have settled :=
    source.encode_settles encoder.layout.longDoubleFormat encoder.byteOrder
      (List.replicate encoder.layout.longDouble.size 0)
  dsimp only at settled
  rw [List.length_replicate, made] at settled
  rw [Argument.registration?, if_pos address]
  dsimp only
  rw [settled]
  rfl

theorem registration?_struct
    {encoder : Encoder}
    {bytes : List UInt8}
    {offset : Nat}
    {type : NativeType}
    (address :
      (Argument.struct bytes offset).byAddress encoder (some type) = true)
    (index : Nat) :
    (Argument.struct bytes offset).registration? encoder (some type) index =
      some ⟨index, .struct bytes, offset, type.size, .input⟩ :=
  if_pos address

/-- An argument is passed by address exactly if it is registered, as its entry. -/
theorem Enters.registers
    (enters : Enters frame argument passage) :
    let type? := frame.signature.parameterType? frame.index
    (passage.effect frame).registration? =
        argument.registration? frame.encoder type? frame.index ∧
      (argument.byAddress frame.encoder type? = true ↔
        ∃ entry, passage = .registered entry) := by
  intro type?
  have inPlace
      (direct : argument.byAddress frame.encoder type? = false) :
      argument.registration? frame.encoder type? frame.index = none :=
    if_neg (ne_true_of_eq_false direct)
  cases enters with
  | primitive value => simp [inPlace rfl, Argument.byAddress, Passage.effect]
  | reference referred covered =>
      cases argument with
      | array | directBuffer | object | environment | handle =>
          cases referred
          exact ⟨rfl, fun _ => ⟨_, rfl⟩, fun _ => rfl⟩
      | primitive | longDouble | struct | structAt => cases referred
  | @longDouble source bytes placement made placed =>
      have direct := byAddress_longDouble source frame type?
      rw [placed] at direct
      simp [inPlace direct, direct, Passage.effect]
  | @scratch source bytes made boxed covered =>
      have address := byAddress_longDouble source frame type?
      rw [boxed] at address
      rw [registration?_longDouble address made]
      exact ⟨rfl, fun _ => ⟨_, rfl⟩, fun _ => address⟩
  | @struct bytes offset type placement declared placed enough =>
      have direct := byAddress_struct declared bytes offset
      rw [placed] at direct
      simp [inPlace direct, direct, Passage.effect, type?]
  | @structReference bytes offset type declared boxed covered =>
      have address := byAddress_struct declared bytes offset
      rw [boxed] at address
      dsimp only [type?]
      rw [declared] at address ⊢
      rw [registration?_struct address]
      exact ⟨rfl, fun _ => ⟨_, rfl⟩, fun _ => address⟩
  | structAt declared placed present =>
      simp [inPlace rfl, Argument.byAddress, Passage.effect]
  | structAddress declared boxed =>
      simp [inPlace rfl, Argument.byAddress, Passage.effect]

end Ways

/-! ## The invariant -/

/-- An empty frame, with or without its table of payloads in place. -/
def opened
    (signature : Signature)
    (encoder : Encoder)
    (settings : Settings)
    (presized : Bool) :
    Frame :=
  { withEncoder signature encoder settings with
    payloads := if presized then some .empty else none }

theorem opened_false
    (signature : Signature)
    (encoder : Encoder)
    (settings : Settings) :
    opened signature encoder settings false =
      withEncoder signature encoder settings := rfl

theorem withPayloads_eq_opened (host : Host) (signature : Signature) :
    withPayloads host signature =
      opened signature (.select signature.platform signature.isRaw)
        host.settings true := by
  rw [withPayloads, ofSignature_eq_withEncoder]
  rfl

/-- What arguments are registered with, for the parameters in order. -/
def entriesOf
    (encoder : Encoder)
    (signature : Signature)
    (arguments : List Argument) :
    List Entry :=
  arguments.zipIdx.filterMap fun put =>
    put.1.registration? encoder (signature.parameterType? put.2) put.2

/-- The table of entries, which is there once there is one or from the start. -/
def tableOf (presized : Bool) (entries : List Entry) : Option PayloadTable :=
  if presized = false ∧ entries = [] then none else some ⟨entries⟩

theorem tableOf_eq_none_iff
    {presized : Bool}
    {entries : List Entry} :
    tableOf presized entries = none ↔ presized = false ∧ entries = [] := by
  rw [tableOf]
  split <;> simp_all

@[simp]
theorem entries_tableOf (presized : Bool) (entries : List Entry) :
    ((tableOf presized entries).getD .empty).entries = entries := by
  rw [tableOf]
  split
  · rename_i missing
    rw [missing.2]
    rfl
  · rfl

theorem register_tableOf
    (presized : Bool)
    (entries : List Entry)
    (registration? : Option Entry) :
    Effect.register (tableOf presized entries) registration? =
      tableOf presized (entries ++ registration?.toList) := by
  cases registration? with
  | none => rw [Option.toList_none, List.append_nil, Effect.register]
  | some entry =>
      rw [Effect.register, entries_tableOf, Option.toList_some, tableOf,
        if_neg fun missing => List.append_ne_nil_of_right_ne_nil _
          (List.cons_ne_nil _ _) missing.2]

theorem entriesOf_append
    (encoder : Encoder)
    (signature : Signature)
    (done : List Argument)
    (argument : Argument) :
    entriesOf encoder signature (done ++ [argument]) =
      entriesOf encoder signature done ++
        (argument.registration? encoder (signature.parameterType? done.length)
          done.length).toList := by
  rw [entriesOf, entriesOf, List.zipIdx_append, List.filterMap_append,
    Nat.zero_add, List.zipIdx_singleton, List.filterMap_cons,
    List.filterMap_nil]
  cases argument.registration? encoder (signature.parameterType? done.length)
    done.length <;> rfl

/-- A frame that has registered exactly the arguments put so far. -/
structure Registered
    (signature : Signature)
    (encoder : Encoder)
    (presized : Bool)
    (done : List Argument)
    (frame : Frame) :
    Prop where
  signature_eq : frame.signature = signature
  encoder_eq : frame.encoder = encoder
  index_eq : frame.index = done.length
  payloads_eq :
    frame.payloads = tableOf presized (entriesOf encoder signature done)

theorem registered_opened
    (signature : Signature)
    (encoder : Encoder)
    (settings : Settings)
    (presized : Bool) :
    Registered signature encoder presized []
      (opened signature encoder settings presized) where
  signature_eq := rfl
  encoder_eq := rfl
  index_eq := rfl
  payloads_eq := by cases presized <;> rfl

theorem Registered.apply
    {signature : Signature}
    {encoder : Encoder}
    {presized : Bool}
    {done : List Argument}
    {frame : Frame}
    {argument : Argument}
    {effect : Effect}
    (registered : Registered signature encoder presized done frame)
    (planned : frame.plan argument = .ok effect) :
    Registered signature encoder presized (done ++ [argument])
      (effect.apply frame) := by
  obtain ⟨passage, enters, -, rfl⟩ := exists_enters_of_plan planned
  have entry := enters.registers.1
  rw [registered.signature_eq, registered.encoder_eq,
    registered.index_eq] at entry
  constructor
  · exact registered.signature_eq
  · exact registered.encoder_eq
  · show frame.index + 1 = (done ++ [argument]).length
    rw [registered.index_eq, List.length_append, List.length_singleton]
  · show Effect.register frame.payloads _ = _
    rw [registered.payloads_eq, entry, register_tableOf, entriesOf_append]

theorem registered_run
    (signature : Signature)
    (encoder : Encoder)
    (settings : Settings)
    (presized : Bool)
    (arguments : List Argument) :
    let start := opened signature encoder settings presized
    Registered signature encoder presized (start.accepted arguments)
      (start.run arguments) :=
  run_induction (fun registered planned => registered.apply planned)
    (registered_opened signature encoder settings presized) arguments

/-! ## The list of entries -/

section Entries

variable {encoder : Encoder} {signature : Signature}
variable {arguments : List Argument} {argument : Argument} {entry : Entry}

/-- An entry carries the index that its argument was put with. -/
theorem index_of_registration?
    {type? : Option NativeType}
    {index : Nat}
    (known : argument.registration? encoder type? index = some entry) :
    entry.index = index := by
  cases address : argument.byAddress encoder type? with
  | false =>
      rw [Argument.registration?.eq_def,
        if_neg (ne_true_of_eq_false address)] at known
      cases known
  | true =>
      rw [Argument.registration?.eq_def, if_pos address] at known
      cases argument with
      | longDouble source =>
          dsimp only at known
          split at known
          · cases known
            rfl
          · cases known
      | struct bytes offset =>
          obtain ⟨type, -, rfl⟩ := Option.map_eq_some_iff.mp known
          rfl
      | array | directBuffer | object | environment | handle =>
          cases known
          rfl
      | primitive | structAt => cases known

/-- An entry is that of the argument at its index. -/
theorem mem_entriesOf_iff :
    entry ∈ entriesOf encoder signature arguments ↔
      ∃ argument, arguments[entry.index]? = some argument ∧
        argument.registration? encoder (signature.parameterType? entry.index)
          entry.index = some entry := by
  rw [entriesOf, List.mem_filterMap]
  constructor
  · rintro ⟨⟨argument, index⟩, member, known⟩
    obtain rfl := index_of_registration? known
    exact ⟨argument, List.mem_zipIdx_iff_getElem?.mp member, known⟩
  · rintro ⟨argument, supplied, known⟩
    exact ⟨(argument, entry.index),
      List.mem_zipIdx_iff_getElem?.mpr supplied, known⟩

theorem pairwise_snd_zipIdx
    {Element : Type}
    (elements : List Element)
    (first : Nat) :
    (elements.zipIdx first).Pairwise fun earlier later =>
      earlier.2 < later.2 := by
  induction elements generalizing first with
  | nil => exact .nil
  | cons element rest induction =>
      rw [List.zipIdx_cons, List.pairwise_cons]
      exact ⟨fun _ member => List.le_snd_of_mem_zipIdx member,
        induction (first + 1)⟩

/-- The indices of the entries grow. -/
theorem pairwise_entriesOf
    (encoder : Encoder)
    (signature : Signature)
    (arguments : List Argument) :
    (entriesOf encoder signature arguments).Pairwise fun earlier later =>
      earlier.index < later.index := by
  rw [entriesOf, List.pairwise_filterMap]
  apply (pairwise_snd_zipIdx arguments 0).imp
  intro earlier later before first known second known'
  rw [index_of_registration? known, index_of_registration? known']
  exact before

/-- The entry that is found for an index is that of the argument there. -/
theorem entryFor?_entriesOf (index : Nat) :
    PayloadTable.entryFor? ⟨entriesOf encoder signature arguments⟩ index =
      arguments[index]?.bind fun argument =>
        argument.registration? encoder (signature.parameterType? index) index := by
  rw [PayloadTable.entryFor?]
  cases found : (entriesOf encoder signature arguments).find?
      (·.index == index) with
  | some entry =>
      have same := List.find?_some found
      obtain rfl : entry.index = index := eq_of_beq same
      obtain ⟨argument, supplied, known⟩ :=
        mem_entriesOf_iff.mp (List.mem_of_find?_eq_some found)
      rw [supplied, Option.bind_some, known]
  | none =>
      rw [List.find?_eq_none] at found
      cases known : arguments[index]?.bind fun argument =>
          argument.registration? encoder (signature.parameterType? index) index with
      | none => rfl
      | some entry =>
          obtain ⟨argument, supplied, registered⟩ :=
            Option.bind_eq_some_iff.mp known
          obtain rfl := index_of_registration? registered
          have member := mem_entriesOf_iff.mpr ⟨argument, supplied, registered⟩
          exact absurd (beq_self_eq_true entry.index) (found entry member)

end Entries

/-! ## What was accepted -/

/-- The window of an entry that is registered is inside its source. -/
theorem Enters.covers
    {frame : Frame}
    {argument : Argument}
    {entry : Entry}
    (enters : Enters frame argument (.registered entry)) :
    entry.payload.covers entry.offset entry.length = true := by
  cases enters with
  | reference referred covered => exact covered
  | scratch made boxed covered => exact covered
  | structReference declared boxed covered => exact covered

/--
The way of an argument that was put when the frame was another one, told by the
entry of the argument and by what the way has left in the end.
-/
structure Went
    (encoder : Encoder)
    (type? : Option NativeType)
    (index : Nat)
    (argument : Argument)
    (passage : Passage)
    (before final : Frame) :
    Prop where
  encoder_eq : before.encoder = encoder
  enters : Enters before argument passage
  fits : passage.Fits before
  length_eq : final.bytes.length = before.bytes.length
  leaves : before.Leaves (passage.effect before) final
  registration?_eq :
    (passage.effect before).registration? =
      argument.registration? encoder type? index
  byAddress_iff :
    argument.byAddress encoder type? = true ↔
      ∃ entry, passage = .registered entry

section Accepted

variable {signature : Signature} {encoder : Encoder} {settings : Settings}
variable {presized : Bool} {arguments : List Argument}
variable {index : Nat} {argument : Argument}

/-- Each accepted argument went its way from the frame in front of it. -/
theorem exists_went_of_accepted
    (spacious : encoder.Spacious)
    (supplied :
      ((opened signature encoder settings presized).accepted
        arguments)[index]? = some argument) :
    let start := opened signature encoder settings presized
    let before := start.run ((start.accepted arguments).take index)
    ∃ passage, Went encoder (signature.parameterType? index) index argument
      passage before (start.run arguments) := by
  intro start before
  have blank : start.BlankTail :=
    blankTail_withEncoder signature encoder settings
  obtain ⟨effect, planned, leaves⟩ :=
    exists_leaves_of_accepted spacious blank supplied
  obtain ⟨passage, enters, fits, rfl⟩ := exists_enters_of_plan planned
  have registered :=
    registered_run signature encoder settings presized
      ((start.accepted arguments).take index)
  dsimp only at registered
  rw [accepted_take] at registered
  have bound : index < (start.accepted arguments).length :=
    (List.getElem?_eq_some_iff.mp supplied).1
  have count : before.index = index := by
    rw [registered.index_eq, List.length_take,
      Nat.min_eq_left (Nat.le_of_lt bound)]
  obtain ⟨entry, address⟩ := enters.registers
  rw [registered.encoder_eq, registered.signature_eq, count] at entry address
  have length :
      (start.run arguments).bytes.length = before.bytes.length :=
    (extends_run spacious arguments).length_eq.trans
      (extends_run spacious _).length_eq.symm
  exact ⟨passage, registered.encoder_eq, enters, fits, length, leaves, entry,
    address⟩

/-- An argument that was accepted has an entry if it is passed by address. -/
theorem isSome_registration?_of_accepted
    (spacious : encoder.Spacious)
    (supplied :
      ((opened signature encoder settings presized).accepted
        arguments)[index]? = some argument) :
    (argument.registration? encoder (signature.parameterType? index) index).isSome =
      argument.byAddress encoder (signature.parameterType? index) := by
  obtain ⟨passage, went⟩ := exists_went_of_accepted spacious supplied
  cases address : argument.byAddress encoder (signature.parameterType? index)
  with
  | true =>
      obtain ⟨entry, rfl⟩ := went.byAddress_iff.mp address
      rw [← went.registration?_eq]
      rfl
  | false =>
      rw [Argument.registration?.eq_def, if_neg (ne_true_of_eq_false address)]
      rfl

/-- The window of the entry of an accepted argument is inside its source. -/
theorem covers_of_accepted
    (spacious : encoder.Spacious)
    (supplied :
      ((opened signature encoder settings presized).accepted
        arguments)[index]? = some argument)
    {entry : Entry}
    (known :
      argument.registration? encoder (signature.parameterType? index) index =
        some entry) :
    entry.payload.covers entry.offset entry.length = true := by
  obtain ⟨passage, went⟩ := exists_went_of_accepted spacious supplied
  have made := went.registration?_eq.trans known
  cases passage with
  | written value => cases made
  | registered other =>
      cases made
      exact went.enters.covers
  | copied placement source => cases made

/-- What was registered has left zeros for its address. -/
theorem window_address_of_accepted
    (spacious : encoder.Spacious)
    (supplied :
      ((opened signature encoder settings presized).accepted
        arguments)[index]? = some argument)
    (address :
      argument.byAddress encoder (signature.parameterType? index) = true) :
    let start := opened signature encoder settings presized
    let before := start.run ((start.accepted arguments).take index)
    window (start.run arguments).bytes
        (encoder.primitiveStart before.offset (.address 0))
        encoder.writer.addressBytes =
      List.replicate encoder.writer.addressBytes 0 := by
  intro start before
  obtain ⟨passage, went⟩ := exists_went_of_accepted spacious supplied
  obtain ⟨entry, rfl⟩ := went.byAddress_iff.mp address
  have same := went.encoder_eq
  have room :
      before.encoder.primitiveEnd before.offset (.address 0) ≤
        (start.run arguments).bytes.length :=
    went.length_eq.symm ▸ went.fits
  have held :=
    went.leaves.window_eq_encode (before.puts_registered entry)
      (same.symm ▸ spacious) room
  rw [same, Writer.encode_zero, Writer.length_encode] at held
  exact held

/-- Nothing is registered exactly if no argument is passed by address. -/
theorem entriesOf_accepted_eq_nil_iff
    (spacious : encoder.Spacious) :
    let puts := (opened signature encoder settings presized).accepted arguments
    entriesOf encoder signature puts = [] ↔
      ∀ (index : Nat) (argument : Argument),
        puts[index]? = some argument →
        argument.byAddress encoder (signature.parameterType? index) =
          false := by
  intro puts
  rw [List.eq_nil_iff_forall_not_mem]
  constructor
  · intro empty index argument supplied
    have registered := isSome_registration?_of_accepted spacious supplied
    cases known :
        argument.registration? encoder (signature.parameterType? index) index with
    | none =>
        rw [known] at registered
        exact registered.symm
    | some entry =>
        obtain rfl := index_of_registration? known
        exact absurd (mem_entriesOf_iff.mpr ⟨argument, supplied, known⟩)
          (empty entry)
  · intro direct entry member
    obtain ⟨argument, supplied, known⟩ := mem_entriesOf_iff.mp member
    have registered := isSome_registration?_of_accepted spacious supplied
    rw [known, direct entry.index argument supplied] at registered
    cases registered

end Accepted

/-! ## The registration of a run -/

/--
Whatever is put into a frame of an encoder that is selected for a platform, with
its table of payloads in place from the start or not: the entries of the table
are those of the accepted arguments that are passed by address, in order, each
with the index that its put had.  The indices grow and are below the index of the
frame, an entry is found by its index and by no other one, and its window is
inside its source.  The bytes of the address that belongs to it are zero in the
end.  There is no table exactly if there was none from the start and no accepted
argument was passed by address.
-/
theorem payloads_registered
    (signature : Signature)
    (platform : Platform)
    (rawPacking : Bool)
    (settings : Settings)
    (presized : Bool)
    (arguments : List Argument) :
    let encoder := Encoder.select platform rawPacking
    let start := opened signature encoder settings presized
    let puts := start.accepted arguments
    let frame := start.run arguments
    let table := frame.payloads.getD .empty
    let type? := signature.parameterType?
    table.entries = entriesOf encoder signature puts ∧
      (∀ (index : Nat) (argument : Argument),
        puts[index]? = some argument →
        (argument.registration? encoder (type? index) index).isSome =
          argument.byAddress encoder (type? index)) ∧
      (table.entries.Pairwise fun earlier later =>
        earlier.index < later.index) ∧
      (∀ entry ∈ table.entries, entry.index < frame.index) ∧
      (∀ index : Nat,
        table.entryFor? index =
          puts[index]?.bind fun argument =>
            argument.registration? encoder (type? index) index) ∧
      (∀ entry ∈ table.entries,
        table.entryFor? entry.index = some entry) ∧
      (∀ entry ∈ table.entries, ∀ available : Nat,
        entry.payload.sourceLength? = some available →
        entry.offset + entry.length ≤ available) ∧
      (∀ (index : Nat) (argument : Argument),
        puts[index]? = some argument →
        argument.byAddress encoder (type? index) = true →
        window frame.bytes
            (encoder.primitiveStart (start.run (puts.take index)).offset
              (.address 0))
            encoder.writer.addressBytes =
          List.replicate encoder.writer.addressBytes 0) ∧
      (frame.payloads = none ↔
        presized = false ∧
          ∀ (index : Nat) (argument : Argument),
            puts[index]? = some argument →
            argument.byAddress encoder (type? index) = false) := by
  intro encoder start puts frame table type?
  have spacious : encoder.Spacious :=
    Encoder.spacious_select platform rawPacking
  have registered : Registered signature encoder presized puts frame :=
    registered_run signature encoder settings presized arguments
  have entries_eq : table.entries = entriesOf encoder signature puts := by
    dsimp only [table]
    rw [registered.payloads_eq, entries_tableOf]
  have table_eq : table = ⟨entriesOf encoder signature puts⟩ := by
    rw [← entries_eq]
  refine ⟨entries_eq, ?_, ?_, ?_, ?_, ?_, ?_, ?_, ?_⟩
  · intro index argument supplied
    exact isSome_registration?_of_accepted spacious supplied
  · rw [entries_eq]
    exact pairwise_entriesOf encoder signature puts
  · intro entry member
    rw [entries_eq] at member
    obtain ⟨argument, supplied, -⟩ := mem_entriesOf_iff.mp member
    rw [registered.index_eq]
    exact (List.getElem?_eq_some_iff.mp supplied).1
  · intro index
    rw [table_eq]
    exact entryFor?_entriesOf index
  · intro entry member
    rw [entries_eq] at member
    obtain ⟨argument, supplied, made⟩ := mem_entriesOf_iff.mp member
    rw [table_eq, entryFor?_entriesOf, supplied]
    exact made
  · intro entry member available known
    rw [entries_eq] at member
    obtain ⟨argument, supplied, made⟩ := mem_entriesOf_iff.mp member
    exact Payload.add_le_of_covers
      (covers_of_accepted spacious supplied made) known
  · intro index argument supplied address
    exact window_address_of_accepted spacious supplied address
  · rw [registered.payloads_eq, tableOf_eq_none_iff]
    exact and_congr Iff.rfl (entriesOf_accepted_eq_nil_iff spacious)

end Frame

end CallFrame
