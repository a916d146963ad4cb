import CallFrame.LongDouble.Encoding
import CallFrame.Proofs.Sequence

/-!
# The image of a `long double`

Encoding a `long double` clears its destination and then stores one or two
numbers, each of which could be refused for want of room.  None of them is:
the numbers of a value fill the bytes of its format exactly, and that many
bytes were asked for before anything was cleared.

So the whole destination is known in advance.  It holds the bytes of the
numbers in order and zeros behind them, and the bytes that were there before
make no difference.  `LongDoubleSource.image` is that destination, and
`encode_settles` says that encoding yields it or changes nothing.
-/

namespace CallFrame

namespace LongDoubleFormat

/-! ## Writing numbers one behind the other -/

/-- The bytes of numbers one behind the other. -/
def bytesOf (order : ByteOrder) (parts : List Scalar) : List UInt8 :=
  parts.flatMap (·.encode order)

@[simp]
theorem length_bytesOf (order : ByteOrder) (parts : List Scalar) :
    (bytesOf order parts).length = totalWidth parts := by
  induction parts with
  | nil => rfl
  | cons part rest induction =>
      rw [totalWidth, List.foldr_cons, ← totalWidth, ← induction]
      simp [bytesOf, Scalar.encode]

/-- Numbers for which there is room are written in order. -/
theorem forM_write
    (order : ByteOrder)
    (parts : List Scalar)
    (buffer : List UInt8)
    (offset : Nat)
    (fits : offset + totalWidth parts ≤ buffer.length) :
    parts.forM (Cursor.write order) ⟨buffer, offset⟩ =
      .ok () ⟨overwrite buffer offset (bytesOf order parts),
        offset + totalWidth parts⟩ := by
  have width :
      StoredScalar.totalWidth (parts.map (StoredScalar.mk order)) =
        totalWidth parts :=
    List.foldr_map
  have bytes :
      StoredScalar.encodeAll (parts.map (StoredScalar.mk order)) =
        bytesOf order parts :=
    List.flatMap_map _ _ _
  have inTurn :
      Cursor.writeAll (parts.map (StoredScalar.mk order)) =
        parts.forM (Cursor.write order) :=
    List.forM_map
  rw [← width] at fits ⊢
  rw [← inTurn, ← bytes]
  exact Cursor.writeAll_of_fits fits

/-! ## Storing and encoding -/

/-- A destination of a size that holds numbers in a format. -/
def image
    (format : LongDoubleFormat)
    (order : ByteOrder)
    (parts : List Scalar)
    (size : Nat) :
    List UInt8 :=
  bytesOf (format.storageOrder order) parts ++
    List.replicate (size - format.encodedLength) 0

/-- Numbers that fill a format are stored if the destination has its room. -/
theorem store_settles
    (format : LongDoubleFormat)
    (order : ByteOrder)
    {parts : List Scalar}
    (filled : totalWidth parts = format.encodedLength) :
    Action.Settles (format.store order parts) fun destination =>
      if format.encodedLength ≤ destination.length then
        .ok (format.image order parts destination.length)
      else
        .error .outOfBounds := by
  intro destination
  dsimp only
  rw [store, Action.get_bind, Action.require_bind]
  by_cases room : format.encodedLength ≤ destination.length
  · have fits :
        0 + totalWidth parts ≤
          (List.replicate destination.length (0 : UInt8)).length := by
      rw [filled, List.length_replicate, Nat.zero_add]
      exact room
    have stored :
        Cursor.fromStart
            (parts.forM (Cursor.write (format.storageOrder order)))
            (List.replicate destination.length (0 : UInt8)) =
          .ok () (overwrite (List.replicate destination.length 0) 0
            (bytesOf (format.storageOrder order) parts)) := by
      rw [Cursor.fromStart, Action.onPart, forM_write _ parts _ 0 fits]
    rw [if_pos room, if_pos room]
    show Cursor.fromStart _ (List.replicate destination.length 0) = _
    rw [stored, overwrite_replicate, length_bytesOf, filled]
    rfl
  · rw [if_neg room, if_neg room]
    rfl

theorem length_image
    (format : LongDoubleFormat)
    (order : ByteOrder)
    {parts : List Scalar}
    {size : Nat}
    (filled : totalWidth parts = format.encodedLength)
    (room : format.encodedLength ≤ size) :
    (format.image order parts size).length = size := by
  rw [image, List.length_append, length_bytesOf, List.length_replicate, filled]
  omega

end LongDoubleFormat

namespace LongDoubleSource

/-- The numbers that a source is stored as, unless it is text of no number. -/
def parts
    (source : LongDoubleSource)
    (format : LongDoubleFormat) :
    Except Error (List Scalar) :=
  match source with
  | double pattern => .ok (format.partsOfDouble pattern)
  | text content =>
    let trimmed := trimBlanks content.toList
    match Literal.parse trimmed with
    | some literal => .ok (format.partsOfLiteral literal)
    | none => .error (.notDecimal (String.ofList trimmed))

theorem totalWidth_parts
    {source : LongDoubleSource}
    {format : LongDoubleFormat}
    {parts : List Scalar}
    (known : source.parts format = .ok parts) :
    LongDoubleFormat.totalWidth parts = format.encodedLength := by
  cases source with
  | double pattern =>
      cases known
      exact LongDoubleFormat.totalWidth_partsOfDouble format pattern
  | text content =>
      rw [LongDoubleSource.parts] at known
      split at known
      · cases known
        exact LongDoubleFormat.totalWidth_partsOfLiteral format _
      · cases known

/-- The destination of a size that a source is encoded to. -/
def image
    (source : LongDoubleSource)
    (format : LongDoubleFormat)
    (order : ByteOrder)
    (size : Nat) :
    Except Error (List UInt8) :=
  match source.parts format with
  | .ok parts =>
    if format.encodedLength ≤ size then .ok (format.image order parts size)
    else .error .outOfBounds
  | .error error => .error error

/-- Encoding yields the image for the length of its destination. -/
theorem encode_settles
    (source : LongDoubleSource)
    (format : LongDoubleFormat)
    (order : ByteOrder) :
    Action.Settles (source.encode format order) fun destination =>
      source.image format order destination.length := by
  intro destination
  dsimp only
  cases known : source.parts format with
  | ok parts =>
      have encoded :
          source.encode format order = format.store order parts := by
        cases source with
        | double pattern =>
            cases known
            rfl
        | text content =>
            rw [LongDoubleSource.parts] at known
            rw [encode]
            split at known
            · cases known
              simp only [*]
            · cases known
      rw [encoded, format.store_settles order (totalWidth_parts known), image,
        known]
  | error cause =>
      cases source with
      | double pattern => cases known
      | text content =>
          rw [image, known]
          rw [LongDoubleSource.parts] at known
          rw [encode]
          split at known
          · cases known
          · cases known
            simp only [*]
            rfl

/-- A source of known numbers is encoded exactly if there is room for them. -/
theorem encode_eq_ok_iff
    {source : LongDoubleSource}
    {format : LongDoubleFormat}
    {order : ByteOrder}
    {parts : List Scalar}
    {destination changed : List UInt8}
    (known : source.parts format = .ok parts) :
    source.encode format order destination = .ok () changed ↔
      format.encodedLength ≤ destination.length ∧
        changed = format.image order parts destination.length := by
  rw [source.encode_settles _ _ destination, Action.settled_eq_ok_iff]
  dsimp only
  rw [image, known]
  dsimp only
  by_cases room : format.encodedLength ≤ destination.length
  · rw [if_pos room, Except.ok.injEq, eq_comm, and_iff_right room]
  · rw [if_neg room]
    exact iff_of_false nofun fun made => room made.1

/-- Encoding a source of known numbers fails for want of room only. -/
theorem encode_eq_error_iff
    {source : LongDoubleSource}
    {format : LongDoubleFormat}
    {order : ByteOrder}
    {parts : List Scalar}
    {destination changed : List UInt8}
    {error : Error}
    (known : source.parts format = .ok parts) :
    source.encode format order destination = .error error changed ↔
      changed = destination ∧
        destination.length < format.encodedLength ∧ error = .outOfBounds := by
  rw [source.encode_settles _ _ destination, Action.settled_eq_error_iff]
  dsimp only
  rw [image, known]
  dsimp only
  by_cases room : format.encodedLength ≤ destination.length
  · rw [if_pos room]
    exact iff_of_false nofun fun failed => (Nat.not_lt.mpr room) failed.2.1
  · rw [if_neg room, Except.error.injEq, and_comm, eq_comm (a := Error.outOfBounds),
      and_iff_right (Nat.lt_of_not_le room)]

/-- A source without numbers is refused, whatever the destination. -/
theorem encode_of_parts_eq_error
    {source : LongDoubleSource}
    {format : LongDoubleFormat}
    {cause : Error}
    (refused : source.parts format = .error cause)
    (order : ByteOrder)
    (destination : List UInt8) :
    source.encode format order destination = .error cause destination := by
  rw [source.encode_settles _ _ destination]
  dsimp only
  rw [image, refused]
  rfl

theorem length_of_image
    {source : LongDoubleSource}
    {format : LongDoubleFormat}
    {order : ByteOrder}
    {size : Nat}
    {bytes : List UInt8}
    (made : source.image format order size = .ok bytes) :
    bytes.length = size := by
  rw [image] at made
  split at made
  · rename_i parts known
    split at made
    · rename_i room
      cases made
      exact format.length_image order (totalWidth_parts known) room
    · cases made
  · cases made

end LongDoubleSource

end CallFrame
