import CallFrame.Proofs.Extent
import CallFrame.Proofs.Settled
import CallFrame.Proofs.Window

/-!
# Numbers one behind the other

A cursor writes numbers of any kinds and byte orders one behind the other, until
one of them does not fit.  That one fails and changes nothing.  What has been
written in front of it is the bytes of the numbers in order, so that a cursor
which starts at the same place reads the same numbers and stops at the same
offsets.

A writer of primitives is such a cursor that stands still: it writes one number
at a fixed offset.
-/

namespace CallFrame

/-! ## Stored numbers -/

/-- A number with the byte order in which it is stored. -/
structure StoredScalar where
  order : ByteOrder
  value : Scalar
deriving DecidableEq, Repr

namespace StoredScalar

def width (item : StoredScalar) : Nat :=
  item.value.kind.width

def encode (item : StoredScalar) : List UInt8 :=
  item.value.encode item.order

/-- What has to be known to read a stored number. -/
def format (item : StoredScalar) : ByteOrder × ScalarKind :=
  ⟨item.order, item.value.kind⟩

@[simp]
theorem length_encode (item : StoredScalar) :
    item.encode.length = item.width :=
  item.value.length_encode item.order

/-- The number of bytes that numbers take one behind the other. -/
def totalWidth (items : List StoredScalar) : Nat :=
  items.foldr (fun item width => item.width + width) 0

/-- The bytes of numbers one behind the other. -/
def encodeAll (items : List StoredScalar) : List UInt8 :=
  items.flatMap encode

@[simp]
theorem totalWidth_cons (item : StoredScalar) (rest : List StoredScalar) :
    totalWidth (item :: rest) = item.width + totalWidth rest := rfl

theorem totalWidth_append (front rest : List StoredScalar) :
    totalWidth (front ++ rest) = totalWidth front + totalWidth rest := by
  induction front with
  | nil => exact (Nat.zero_add _).symm
  | cons item others induction =>
      rw [List.cons_append, totalWidth_cons, totalWidth_cons, induction,
        Nat.add_assoc]

@[simp]
theorem length_encodeAll (items : List StoredScalar) :
    (encodeAll items).length = totalWidth items := by
  induction items with
  | nil => rfl
  | cons item rest induction =>
      rw [encodeAll, List.flatMap_cons, ← encodeAll, List.length_append,
        length_encode, induction, totalWidth_cons]

end StoredScalar

open StoredScalar (totalWidth encodeAll)

namespace Cursor

/-! ## One number -/

section Single

variable {order : ByteOrder} {value : Scalar}
variable {buffer : List UInt8} {offset : Nat}

/-- A number for which there is room is written, and the cursor moves on. -/
theorem write_of_fits
    (fits : offset + value.kind.width ≤ buffer.length) :
    write order value ⟨buffer, offset⟩ =
      .ok () ⟨overwrite buffer offset (value.encode order),
        offset + value.kind.width⟩ := by
  have room : offset + (value.encode order).length ≤ buffer.length := by
    rwa [Scalar.length_encode]
  have changed :
      onBuffer (writeAt offset (value.encode order)) ⟨buffer, offset⟩ =
        .ok () ⟨overwrite buffer offset (value.encode order), offset⟩ := by
    unfold onBuffer
    exact Action.onPart_of_ok (writeAt_of_fits room)
  rw [write, Action.get_bind, Action.bind_of_ok changed]
  rfl

/-- A number for which there is no room leaves the buffer and the cursor alone. -/
theorem write_of_not_fits
    (outside : ¬ offset + value.kind.width ≤ buffer.length) :
    write order value ⟨buffer, offset⟩ =
      .error .outOfBounds ⟨buffer, offset⟩ := by
  have noRoom : ¬ offset + (value.encode order).length ≤ buffer.length := by
    rwa [Scalar.length_encode]
  have failed :
      onBuffer (writeAt offset (value.encode order)) ⟨buffer, offset⟩ =
        .error .outOfBounds ⟨buffer, offset⟩ := by
    unfold onBuffer
    exact Action.onPart_of_error (writeAt_of_not_fits noRoom)
  rw [write, Action.get_bind, Action.bind_of_error failed]

/-- A number is read from its bytes. -/
theorem readFrom_of_window
    (fits : offset + value.kind.width ≤ buffer.length)
    (held : window buffer offset value.kind.width = value.encode order) :
    Scalar.readFrom value.kind order buffer offset = .ok value := by
  rw [Scalar.readFrom, readAt, if_pos fits, held]
  exact congrArg Except.ok (value.decode_encode order)

theorem read_of_window
    (fits : offset + value.kind.width ≤ buffer.length)
    (held : window buffer offset value.kind.width = value.encode order) :
    read order value.kind ⟨buffer, offset⟩ =
      .ok value ⟨buffer, offset + value.kind.width⟩ := by
  rw [read, Action.get_bind, readFrom_of_window fits held,
    Action.ofExcept_bind]
  rfl

end Single

/-! ## Numbers in turn -/

/-- Write numbers in turn, up to the first one that does not fit. -/
def writeAll (items : List StoredScalar) : Action Cursor Unit :=
  items.forM fun item => write item.order item.value

/-- Read numbers of the given orders and kinds in turn. -/
def readAll : List (ByteOrder × ScalarKind) → Action Cursor (List Scalar)
  | [] => pure []
  | (order, kind) :: rest => do
    let value ← read order kind
    let values ← readAll rest
    return value :: values

variable {items front : List StoredScalar}
variable {buffer : List UInt8} {start : Nat}

/-- Numbers for which there is room are written in order. -/
theorem writeAll_of_fits
    (fits : start + totalWidth items ≤ buffer.length) :
    writeAll items ⟨buffer, start⟩ =
      .ok () ⟨overwrite buffer start (encodeAll items),
        start + totalWidth items⟩ := by
  induction items generalizing buffer start with
  | nil =>
      rw [encodeAll, List.flatMap_nil, overwrite_nil]
      rfl
  | cons item rest induction =>
      rw [StoredScalar.totalWidth_cons] at fits
      have itemFits : start + item.width ≤ buffer.length := by omega
      have bytesFit : start + item.encode.length ≤ buffer.length := by
        rwa [StoredScalar.length_encode]
      have restFits :
          start + item.width + totalWidth rest ≤
            (overwrite buffer start item.encode).length := by
        rw [length_overwrite bytesFit]
        omega
      have behind :
          overwrite (overwrite buffer start item.encode) (start + item.width)
              (encodeAll rest) =
            overwrite buffer start (item.encode ++ encodeAll rest) := by
        rw [← item.length_encode]
        exact overwrite_overwrite_behind bytesFit
      show (write item.order item.value >>= fun _ => writeAll rest)
        ⟨buffer, start⟩ = _
      rw [Action.bind_of_ok (write_of_fits itemFits)]
      refine (induction restFits).trans ?_
      rw [behind, StoredScalar.totalWidth_cons, ← Nat.add_assoc]
      rfl

theorem writeAll_append (front rest : List StoredScalar) :
    writeAll (front ++ rest) = writeAll front >>= fun _ => writeAll rest :=
  List.forM_append

/-- A window over two parts that touch is made of both. -/
theorem window_add (buffer : List UInt8) (offset first second : Nat) :
    window buffer offset (first + second) =
      window buffer offset first ++ window buffer (offset + first) second := by
  rw [window, List.take_add, List.drop_drop]
  rfl

/-- Numbers are read from their bytes in order. -/
theorem readAll_of_window
    (fits : start + totalWidth items ≤ buffer.length)
    (held : window buffer start (totalWidth items) = encodeAll items) :
    readAll (items.map StoredScalar.format) ⟨buffer, start⟩ =
      .ok (items.map StoredScalar.value)
        ⟨buffer, start + totalWidth items⟩ := by
  induction items generalizing start with
  | nil => rfl
  | cons item rest induction =>
      rw [StoredScalar.totalWidth_cons] at fits held ⊢
      have itemFits : start + item.width ≤ buffer.length := by omega
      rw [window_add, encodeAll, List.flatMap_cons] at held
      obtain ⟨first, others⟩ := List.append_inj held (by
        rw [length_window itemFits, StoredScalar.length_encode])
      have one := read_of_window itemFits first
      have more := induction (by omega) others
      show (read item.order item.value.kind >>= fun value =>
        readAll (rest.map StoredScalar.format) >>= fun values =>
          pure (value :: values)) ⟨buffer, start⟩ = _
      rw [Action.bind_of_ok one]
      refine (Action.bind_of_ok more).trans ?_
      rw [Nat.add_assoc]
      rfl

/-- Numbers have a longest part in front for which there is room. -/
theorem exists_fitting (items : List StoredScalar) (length start : Nat) :
    ∃ front rest,
      items = front ++ rest ∧
        (front = [] ∨ start + totalWidth front ≤ length) ∧
        ∀ item later, rest = item :: later →
          length < start + totalWidth front + item.width := by
  induction items generalizing start with
  | nil => exact ⟨[], [], rfl, Or.inl rfl, nofun⟩
  | cons item rest induction =>
      by_cases fits : start + item.width ≤ length
      · obtain ⟨front, others, split, room, stop⟩ :=
          induction (start + item.width)
        refine ⟨item :: front, others, congrArg (item :: ·) split, ?_, ?_⟩
        · right
          rw [StoredScalar.totalWidth_cons]
          rcases room with rfl | room
          · exact fits
          · omega
        · intro next later known
          rw [StoredScalar.totalWidth_cons, ← Nat.add_assoc]
          exact stop next later known
      · refine ⟨[], item :: rest, rfl, Or.inl rfl, ?_⟩
        rintro next later ⟨⟩
        exact not_le.mp fits

/--
What comes of writing numbers in turn from an offset of a buffer on.  The numbers
in front have been written, and there is no room for the first of the rest.
-/
structure WritesInTurn
    (items : List StoredScalar)
    (buffer : List UInt8)
    (start : Nat)
    (front rest : List StoredScalar)
    (changed : List UInt8) :
    Prop where
  split : items = front ++ rest
  /-- With enough room nothing is left over. -/
  complete : start + totalWidth items ≤ buffer.length → rest = []
  /-- The first number that does not fit fails and changes nothing. -/
  outcome :
    rest = [] ∧
        writeAll items ⟨buffer, start⟩ =
          .ok () ⟨changed, start + totalWidth front⟩ ∨
      ∃ item later,
        rest = item :: later ∧
          buffer.length < start + totalWidth front + item.width ∧
          write item.order item.value ⟨changed, start + totalWidth front⟩ =
            .error .outOfBounds ⟨changed, start + totalWidth front⟩ ∧
          writeAll items ⟨buffer, start⟩ =
            .error .outOfBounds ⟨changed, start + totalWidth front⟩
  /-- Reading returns what was written, at the same offset after every step. -/
  steps :
    ∀ count,
      (∃ partly,
          writeAll (front.take count) ⟨buffer, start⟩ =
            .ok () ⟨partly, start + totalWidth (front.take count)⟩) ∧
        readAll ((front.take count).map StoredScalar.format)
            ⟨changed, start⟩ =
          .ok ((front.take count).map StoredScalar.value)
            ⟨changed, start + totalWidth (front.take count)⟩
  length_eq : changed.length = buffer.length
  outside :
    ∀ index, index < start ∨ start + totalWidth front ≤ index →
      changed[index]? = buffer[index]?

/-- Of numbers that have been written the ones in front are read back. -/
theorem readAll_front
    {rest : List StoredScalar}
    (fits : start + totalWidth (front ++ rest) ≤ buffer.length) :
    readAll (front.map StoredScalar.format)
        ⟨overwrite buffer start (encodeAll (front ++ rest)), start⟩ =
      .ok (front.map StoredScalar.value)
        ⟨overwrite buffer start (encodeAll (front ++ rest)),
          start + totalWidth front⟩ := by
  have bytesFit : start + (encodeAll (front ++ rest)).length ≤ buffer.length := by
    rwa [StoredScalar.length_encodeAll]
  have held := window_overwrite_self bytesFit
  have length := length_overwrite bytesFit
  rw [StoredScalar.length_encodeAll] at held
  generalize overwrite buffer start (encodeAll (front ++ rest)) = changed at *
  rw [StoredScalar.totalWidth_append] at fits held
  rw [window_add, encodeAll, List.flatMap_append] at held
  have room : start + totalWidth front ≤ changed.length := by omega
  obtain ⟨first, -⟩ := List.append_inj held (by
    rw [length_window room, ← encodeAll, StoredScalar.length_encodeAll])
  exact readAll_of_window room first

/-- Numbers for which there is room are written and read back. -/
theorem writesInTurn_of_room
    (room : items = [] ∨ start + totalWidth items ≤ buffer.length) :
    WritesInTurn items buffer start items []
      (overwrite buffer start (encodeAll items)) := by
  rcases room with rfl | fits
  · have unchanged : overwrite buffer start (encodeAll []) = buffer :=
      overwrite_nil buffer start
    rw [unchanged]
    refine ⟨rfl, fun _ => rfl, Or.inl ⟨rfl, rfl⟩, fun count => ?_, rfl,
      fun _ _ => rfl⟩
    rw [List.take_nil]
    exact ⟨⟨buffer, rfl⟩, rfl⟩
  · have bytesFit : start + (encodeAll items).length ≤ buffer.length := by
      rwa [StoredScalar.length_encodeAll]
    refine ⟨(List.append_nil items).symm, fun _ => rfl,
      Or.inl ⟨rfl, writeAll_of_fits fits⟩, fun count => ?_,
      length_overwrite bytesFit, fun index beside => ?_⟩
    · rw [← List.take_append_drop count items] at fits
      have back := readAll_front fits
      rw [List.take_append_drop] at back
      rw [StoredScalar.totalWidth_append] at fits
      exact ⟨⟨_, writeAll_of_fits (by omega)⟩, back⟩
    · apply getElem?_overwrite_of_outside bytesFit
      rwa [StoredScalar.length_encodeAll]

/-- Writing stops at the first number for which there is no room. -/
theorem WritesInTurn.stop
    {changed : List UInt8}
    {item : StoredScalar}
    (inTurn : WritesInTurn front buffer start front [] changed)
    (noRoom : buffer.length < start + totalWidth front + item.width)
    (later : List StoredScalar) :
    WritesInTurn (front ++ item :: later) buffer start front (item :: later)
      changed := by
  have written :
      writeAll front ⟨buffer, start⟩ =
        .ok () ⟨changed, start + totalWidth front⟩ := by
    rcases inTurn.outcome with ⟨-, written⟩ | ⟨_, _, more, -⟩
    · exact written
    · cases more
  have failed :
      write item.order item.value ⟨changed, start + totalWidth front⟩ =
        .error .outOfBounds ⟨changed, start + totalWidth front⟩ := by
    apply write_of_not_fits
    rw [inTurn.length_eq]
    exact not_le.mpr noRoom
  refine ⟨rfl, fun fits => ?_,
    Or.inr ⟨item, later, rfl, noRoom, failed, ?_⟩, inTurn.steps,
    inTurn.length_eq, inTurn.outside⟩
  · rw [StoredScalar.totalWidth_append, StoredScalar.totalWidth_cons] at fits
    omega
  · rw [writeAll_append, Action.bind_of_ok written]
    exact Action.bind_of_error failed

theorem exists_writesInTurn
    (items : List StoredScalar)
    (buffer : List UInt8)
    (start : Nat) :
    ∃ front rest changed,
      WritesInTurn items buffer start front rest changed := by
  obtain ⟨front, rest, rfl, room, stop⟩ :=
    exists_fitting items buffer.length start
  have inTurn := writesInTurn_of_room room
  cases rest with
  | nil =>
      rw [List.append_nil]
      exact ⟨front, [], _, inTurn⟩
  | cons item later =>
      exact ⟨front, item :: later, _, inTurn.stop (stop item later rfl) later⟩

/-- The third number does not fit, and the cursor stays behind the second one. -/
example :
    writeAll
        [⟨.bigEndian, .int16 (-2)⟩, ⟨.littleEndian, .float 0x3f800000⟩,
          ⟨.bigEndian, .uint16 0⟩]
        ⟨List.replicate 8 0xaa, 1⟩ =
      .error .outOfBounds
        ⟨[0xaa, 0xff, 0xfe, 0x00, 0x00, 0x80, 0x3f, 0xaa], 7⟩ := by
  rfl

/-! ## Both orders -/

/-- Written in the one order the bytes are the reversal of the other order. -/
theorem write_reversed
    (value : Scalar)
    {buffer : List UInt8}
    {offset : Nat}
    (fits : offset + value.kind.width ≤ buffer.length) :
    ∃ little big,
      write .littleEndian value ⟨buffer, offset⟩ =
          .ok () ⟨little, offset + value.kind.width⟩ ∧
        write .bigEndian value ⟨buffer, offset⟩ =
          .ok () ⟨big, offset + value.kind.width⟩ ∧
        window big offset value.kind.width =
          (window little offset value.kind.width).reverse := by
  have held (order : ByteOrder) :
      window (overwrite buffer offset (value.encode order)) offset
          value.kind.width =
        value.encode order := by
    rw [← value.length_encode order] at fits ⊢
    exact window_overwrite_self fits
  refine ⟨_, _, write_of_fits fits, write_of_fits fits, ?_⟩
  rw [held, held]
  exact ByteOrder.encode_bigEndian_eq_reverse _ _

/-! ## A fixed offset -/

/-- Act with a cursor at an offset of a buffer. -/
def atOffset
    {Result : Type}
    (offset : Nat)
    (action : Action Cursor Result) :
    Action (List UInt8) Result :=
  Action.onPart (fun buffer => ⟨buffer, offset⟩)
    (fun changed _ => changed.buffer) action

end Cursor

namespace Writer

variable (writer : Writer) (offset : Nat)

/-- A primitive is put as its number is written. -/
theorem put_eq_write (value : Primitive) :
    writer.put offset value =
      Cursor.atOffset offset
        (Cursor.write writer.byteOrder (value.scalar writer.addressWidth)) := by
  funext buffer
  have encoded := writer.encode_eq_scalar value
  have width := writer.length_encode_eq_width value
  rw [put, Cursor.atOffset, Action.onPart]
  by_cases fits : offset + (writer.encode value).length ≤ buffer.length
  · rw [writeAt_of_fits fits, Cursor.write_of_fits (by rwa [← width]), encoded]
  · rw [writeAt_of_not_fits fits,
      Cursor.write_of_not_fits (by rwa [← width])]

/-- What has been put is read back at the same offset. -/
theorem readFrom_of_put
    {value : Primitive}
    {buffer changed : List UInt8}
    (done : writer.put offset value buffer = .ok () changed) :
    Scalar.readFrom (value.scalar writer.addressWidth).kind writer.byteOrder
        changed offset =
      .ok (value.scalar writer.addressWidth) := by
  have encoded := writer.encode_eq_scalar value
  have width := writer.length_encode_eq_width value
  rw [put] at done
  by_cases fits : offset + (writer.encode value).length ≤ buffer.length
  · rw [writeAt_of_fits fits] at done
    cases done
    apply Cursor.readFrom_of_window
    · rwa [length_overwrite fits, ← width]
    · rw [← width, window_overwrite_self fits, encoded]
  · rw [writeAt_of_not_fits fits] at done
    cases done

theorem put_float (pattern : UInt32) :
    writer.put offset (.float pattern) =
      writer.put offset (.int pattern.toInt32) := rfl

theorem put_double (pattern : UInt64) :
    writer.put offset (.double pattern) =
      writer.put offset (.long pattern.toInt64) := rfl

/-- An address is put as an integer of its low bits. -/
theorem put_address (address : UInt64) :
    writer.put offset (.address address) =
      match writer.addressWidth with
      | .w32 => writer.put offset (.int address.toUInt32.toInt32)
      | .w64 => writer.put offset (.long address.toInt64) := by
  have encoded := writer.encode_eq_scalar (.address address)
  rcases writer with ⟨order, width⟩
  rw [put, encoded]
  cases width <;> rfl

end Writer

/--
Numbers of any kinds and orders are written in turn and read back in turn, up to
the first one that does not fit.  The bytes of the two orders are the reversal of
each other, and an offset past the last word is out of bounds.  A writer of
primitives writes the same numbers at a fixed offset: floating point numbers
through their bit patterns, addresses through their low bits.
-/
theorem numbers_are_read_back :
    (∀ items buffer start, ∃ front rest changed,
        Cursor.WritesInTurn items buffer start front rest changed) ∧
      (∀ (value : Scalar) (buffer : List UInt8) (offset : Nat),
        offset + value.kind.width ≤ buffer.length →
          ∃ little big,
            Cursor.write .littleEndian value ⟨buffer, offset⟩ =
                .ok () ⟨little, offset + value.kind.width⟩ ∧
              Cursor.write .bigEndian value ⟨buffer, offset⟩ =
                .ok () ⟨big, offset + value.kind.width⟩ ∧
              window big offset value.kind.width =
                (window little offset value.kind.width).reverse) ∧
      (∀ order (value : Scalar) (buffer : List UInt8) (offset : Nat),
        buffer.length < 2 ^ 64 → 2 ^ 64 ≤ offset + value.kind.width →
          Cursor.write order value ⟨buffer, offset⟩ =
            .error .outOfBounds ⟨buffer, offset⟩) ∧
      ∀ (writer : Writer) (offset : Nat),
        (∀ value,
            writer.put offset value =
              Cursor.atOffset offset
                (Cursor.write writer.byteOrder
                  (value.scalar writer.addressWidth))) ∧
          (∀ value buffer changed,
            writer.put offset value buffer = .ok () changed →
              Scalar.readFrom (value.scalar writer.addressWidth).kind
                  writer.byteOrder changed offset =
                .ok (value.scalar writer.addressWidth)) ∧
          (∀ pattern,
            writer.put offset (.float pattern) =
              writer.put offset (.int pattern.toInt32)) ∧
          (∀ pattern,
            writer.put offset (.double pattern) =
              writer.put offset (.long pattern.toInt64)) ∧
          ∀ address,
            writer.put offset (.address address) =
              match writer.addressWidth with
              | .w32 => writer.put offset (.int address.toUInt32.toInt32)
              | .w64 => writer.put offset (.long address.toInt64) := by
  refine ⟨Cursor.exists_writesInTurn, ?_, ?_, ?_⟩
  · intro value buffer offset fits
    exact Cursor.write_reversed value fits
  · intro order value buffer offset word past
    exact Cursor.write_of_not_fits (by omega)
  · intro writer offset
    exact ⟨writer.put_eq_write offset,
      fun value buffer changed done => writer.readFrom_of_put offset done,
      writer.put_float offset, writer.put_double offset,
      writer.put_address offset⟩

/-- A number at the end of a buffer, one past the last word and a cut address. -/
theorem edgeNumbers_are_read_back :
    (∃ little big,
        Cursor.write .littleEndian (.int16 (-2)) ⟨List.replicate 4 0xaa, 2⟩ =
            .ok () ⟨little, 4⟩ ∧
          Cursor.write .bigEndian (.int16 (-2)) ⟨List.replicate 4 0xaa, 2⟩ =
            .ok () ⟨big, 4⟩ ∧
          window big 2 2 = (window little 2 2).reverse) ∧
      Cursor.write .littleEndian (.uint8 0) ⟨[0xaa], 2 ^ 64 - 1⟩ =
        .error .outOfBounds ⟨[0xaa], 2 ^ 64 - 1⟩ ∧
      Scalar.readFrom .uint32 .bigEndian [0x12, 0x34, 0x56, 0x78] 0 =
        .ok (.uint32 0x12345678) := by
  obtain ⟨-, reversed, pastWords, puts⟩ := numbers_are_read_back
  refine ⟨reversed (.int16 (-2)) (List.replicate 4 0xaa) 2 (by decide),
    pastWords .littleEndian (.uint8 0) [0xaa] (2 ^ 64 - 1) (by decide)
      (by decide), ?_⟩
  obtain ⟨-, back, -⟩ := puts ⟨.bigEndian, .w32⟩ 0
  exact back (.address 0xffffffff12345678) (List.replicate 4 0xaa)
    [0x12, 0x34, 0x56, 0x78] rfl

end CallFrame
