import CallFrame.Proofs.LongDoubleImage
import CallFrame.Proofs.Rounding.Grammar

/-!
# The destination of a `long double`

A source is encoded into bytes that belong to a caller, who may have put
anything there and may have fewer of them than the format needs.  This module
tells every outcome of that: what is in the destination afterwards, and with
which error nothing has happened.

The text is judged before the room is.  So text that is no number is reported
as such even where there would be no room for it, and every other failure is
want of room.  What is written comes from the source alone; the bytes behind it
are zero, whatever they were before.
-/

namespace CallFrame

namespace LongDoubleSource

/-- Whether a source denotes something. -/
def IsNumber : LongDoubleSource → Prop
  | double _ => True
  | text content => Literal.IsNumberText (trimBlanks content.toList)

/-- A source is a text of no number, which is reported without its blanks. -/
def IsReportedAs (source : LongDoubleSource) (error : Error) : Prop :=
  ∃ content,
    source = text content ∧ ¬ source.IsNumber ∧
      error = .notDecimal (trimText content)

/-- A source either has its numbers or is reported. -/
theorem parts_cases
    (source : LongDoubleSource)
    (format : LongDoubleFormat) :
    (source.IsNumber ∧ ∃ parts, source.parts format = .ok parts) ∨
      ∃ cause, source.IsReportedAs cause ∧ source.parts format = .error cause := by
  cases source with
  | double pattern => exact Or.inl ⟨trivial, _, rfl⟩
  | text content =>
      rw [IsNumber, ← Literal.isSome_parse_iff, parts]
      cases parsed : Literal.parse (trimBlanks content.toList) with
      | some literal => exact Or.inl ⟨rfl, _, rfl⟩
      | none =>
          refine Or.inr ⟨_, ⟨content, rfl, ?_, rfl⟩, rfl⟩
          rw [IsNumber, ← Literal.isSome_parse_iff, parsed]
          exact Bool.false_ne_true

theorem IsReportedAs.not_isNumber
    {source : LongDoubleSource}
    {error : Error}
    (reported : source.IsReportedAs error) :
    ¬ source.IsNumber := by
  obtain ⟨content, -, none, -⟩ := reported
  exact none

/-- A source is reported in one way. -/
theorem IsReportedAs.unique
    {source : LongDoubleSource}
    {error other : Error}
    (reported : source.IsReportedAs error)
    (again : source.IsReportedAs other) :
    error = other := by
  obtain ⟨content, rfl, -, rfl⟩ := reported
  obtain ⟨content, same, -, rfl⟩ := again
  cases same
  rfl

/--
What a source is encoded to in a format depends on the byte order alone, and
for the extended format not even on that.  Encoding succeeds exactly if the
source denotes something and there is room for the format; the destination then
holds these bytes and zeros behind them.  It fails exactly if the source is text
of no number or if there is no room, and then the destination stays.
-/
theorem encode_fills_destination
    (source : LongDoubleSource)
    (format : LongDoubleFormat) :
    ∃ bytes : ByteOrder → List UInt8,
      (∀ order, (bytes order).length = format.encodedLength) ∧
        (format = .x87 → bytes .littleEndian = bytes .bigEndian) ∧
        ∀ order destination,
          (∀ changed,
            source.encode format order destination = .ok () changed ↔
              source.IsNumber ∧
                format.encodedLength ≤ destination.length ∧
                changed =
                  bytes order ++
                    List.replicate
                      (destination.length - format.encodedLength) 0) ∧
          ∀ error changed,
            source.encode format order destination = .error error changed ↔
              changed = destination ∧
                (source.IsReportedAs error ∨
                  source.IsNumber ∧
                    destination.length < format.encodedLength ∧
                    error = .outOfBounds) := by
  rcases source.parts_cases format with
    ⟨number, parts, known⟩ | ⟨cause, reported, refused⟩
  · refine
      ⟨fun order => LongDoubleFormat.bytesOf (format.storageOrder order) parts,
        ?_, ?_, ?_⟩
    · intro order
      rw [LongDoubleFormat.length_bytesOf, totalWidth_parts known]
    · rintro rfl
      rfl
    · intro order destination
      constructor
      · intro changed
        rw [encode_eq_ok_iff known, and_iff_right number]
        rfl
      · intro error changed
        have unreported : ¬ source.IsReportedAs error :=
          fun reported => reported.not_isNumber number
        rw [encode_eq_error_iff known, or_iff_right unreported,
          and_iff_right number]
  · -- Nothing is written, so that any bytes of the right number will do.
    have none := reported.not_isNumber
    refine
      ⟨fun _ => List.replicate format.encodedLength 0,
        fun _ => List.length_replicate, fun _ => rfl, ?_⟩
    intro order destination
    rw [encode_of_parts_eq_error refused]
    constructor
    · intro changed
      exact iff_of_false nofun fun made => none made.1
    · intro error changed
      constructor
      · intro failed
        cases failed
        exact ⟨rfl, Or.inl reported⟩
      · rintro ⟨rfl, again | ⟨number, -⟩⟩
        · rw [reported.unique again]
        · exact absurd number none

end LongDoubleSource

end CallFrame
