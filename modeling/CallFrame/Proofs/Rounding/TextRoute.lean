import CallFrame.Proofs.Rounding.Grammar
import CallFrame.Proofs.Rounding.Text

/-!
# The way of a text through two readers

A text for a `long double` is seen by two readers.  The reader of doubles decides
whether it is a number at all, and the reader of decimal numbers takes it over
where it can, because a double may be too short for it.  If the two readers did
not agree on what a number is, digits would be lost without notice: a decimal
number that only the first reader takes would be cut down to 53 bits.

This module follows a text through both.  The reader of doubles stands for any
function that accepts exactly the numbers.  Then a text is refused exactly if it
is no number, and it is left to the reader of doubles exactly if it is an
infinity or no number at all; a finite number always goes the exact way.

Encoding is one such way: its reader of doubles rounds a decimal number once.
-/

namespace CallFrame

/-- What becomes of a text for a `long double`. -/
inductive TextRoute where
  /-- The text is no number. -/
  | refused
  /-- Only the reader of doubles takes the text. -/
  | asDouble (pattern : UInt64)
  /-- Both readers take the text. -/
  | asDecimal (pattern : UInt64) (value : Decimal)

/-- The way of a text through a reader of doubles and the one of decimal numbers. -/
def textRoute
    (readDouble : List Char → Option UInt64)
    (text : List Char) :
    TextRoute :=
  match readDouble text with
  | none => .refused
  | some pattern =>
    match Literal.parseDecimal text with
    | none => .asDouble pattern
    | some value => .asDecimal pattern value

/-- The numbers for a decimal number that is known as a double, too. -/
def LongDoubleFormat.partsOfReading
    (format : LongDoubleFormat)
    (pattern : UInt64)
    (value : Decimal) :
    List Scalar :=
  match format with
  | double => [.double pattern]
  | x87 | binary128 | doubleDouble => format.partsOfDecimal value

/-- Encode what a text has become, or fail with a given error. -/
def TextRoute.encode
    (route : TextRoute)
    (refusal : Error)
    (format : LongDoubleFormat)
    (order : ByteOrder) :
    Action (List UInt8) Unit :=
  match route with
  | refused => throw refusal
  | asDouble pattern => (LongDoubleSource.double pattern).encode format order
  | asDecimal pattern value =>
    format.store order (format.partsOfReading pattern value)

/-- Encode a text that goes through a reader of doubles first. -/
def encodeTextBy
    (readDouble : List Char → Option UInt64)
    (content : String)
    (format : LongDoubleFormat)
    (order : ByteOrder) :
    Action (List UInt8) Unit :=
  (textRoute readDouble (trimBlanks content.toList)).encode
    (.notDecimal (trimText content)) format order

/-! ## Readers of doubles -/

namespace Literal

/-- A reader of doubles takes the numbers and nothing else. -/
def AcceptsNumbers (readDouble : List Char → Option UInt64) : Prop :=
  ∀ text, (readDouble text).isSome ↔ IsNumberText text

/-- The double that a literal denotes. -/
def pattern : Literal → UInt64
  | decimal value =>
    doubleOfRounded value.negative (value.round .binary64)
  | infinity negative => doubleInfinity negative
  | nan negative => doubleNan negative

/-- Read a text as a double, rounding a decimal number once. -/
def readDouble (text : List Char) : Option UInt64 :=
  (parse text).map pattern

theorem acceptsNumbers_readDouble : AcceptsNumbers readDouble := by
  intro text
  rw [readDouble, Option.isSome_map, isSome_parse_iff]

end Literal

/-- The literal of a special text keeps its double in every format. -/
theorem partsOfLiteral_of_parseSpecial
    {text : List Char}
    {literal : Literal}
    (special : Literal.parseSpecial text = some literal)
    (format : LongDoubleFormat) :
    format.partsOfLiteral literal = format.partsOfDouble literal.pattern := by
  rw [Literal.parseSpecial] at special
  split at special
  · cases special
    rfl
  · split at special
    · cases special
      rfl
    · cases special

/-- Encoding a text is encoding it through the reader that rounds once. -/
theorem encode_eq_encodeTextBy
    (content : String)
    (format : LongDoubleFormat)
    (order : ByteOrder) :
    (LongDoubleSource.text content).encode format order =
      encodeTextBy Literal.readDouble content format order := by
  rw [LongDoubleSource.encode, encodeTextBy, textRoute, Literal.readDouble,
    Literal.parse]
  cases decimal : Literal.parseDecimal (trimBlanks content.toList) with
  | some value => cases format <;> rfl
  | none =>
      dsimp only
      cases special : Literal.parseSpecial (trimBlanks content.toList) with
      | none => rfl
      | some literal =>
          dsimp only [Option.map_some]
          rw [partsOfLiteral_of_parseSpecial special]
          rfl

/-! ## Which way a text goes -/

section Routes

variable {readDouble : List Char → Option UInt64} {text : List Char}

theorem textRoute_eq_refused_iff
    (accepts : Literal.AcceptsNumbers readDouble) :
    textRoute readDouble text = .refused ↔ ¬ Literal.IsNumberText text := by
  rw [← accepts text, textRoute]
  cases readDouble text with
  | none => exact iff_of_true rfl Bool.false_ne_true
  | some pattern =>
      refine iff_of_false ?_ (not_not_intro rfl)
      cases Literal.parseDecimal text <;> exact nofun

/-- Only a special number is left to the reader of doubles. -/
theorem textRoute_eq_asDouble_iff
    (accepts : Literal.AcceptsNumbers readDouble)
    (pattern : UInt64) :
    textRoute readDouble text = .asDouble pattern ↔
      Literal.IsSpecialText text ∧ readDouble text = some pattern := by
  rw [textRoute]
  constructor
  · intro route
    cases known : readDouble text with
    | none =>
        rw [known] at route
        cases route
    | some read =>
        have number : Literal.IsNumberText text := by
          rw [← accepts text, known]
          rfl
        rw [known] at route
        cases decimal : Literal.parseDecimal text with
        | none =>
            rw [decimal] at route
            cases route
            refine ⟨number.resolve_left ?_, rfl⟩
            rw [← Literal.isSome_parseDecimal_iff, decimal]
            exact Bool.false_ne_true
        | some value =>
            rw [decimal] at route
            cases route
  · rintro ⟨special, read⟩
    have undecided : Literal.parseDecimal text = none := by
      rw [← Option.not_isSome_iff_eq_none, Literal.isSome_parseDecimal_iff]
      exact Literal.not_isDecimalText_of_isSpecialText special
    rw [read, undecided]

/-- A decimal number goes the exact way. -/
theorem exists_textRoute_of_isDecimalText
    (accepts : Literal.AcceptsNumbers readDouble)
    (decimal : Literal.IsDecimalText text) :
    ∃ pattern value,
      Literal.parseDecimal text = some value ∧
        textRoute readDouble text = .asDecimal pattern value := by
  obtain ⟨value, parsed⟩ :=
    Option.isSome_iff_exists.mp (Literal.isSome_parseDecimal_iff.mpr decimal)
  obtain ⟨pattern, read⟩ :=
    Option.isSome_iff_exists.mp ((accepts text).mpr (Or.inl decimal))
  refine ⟨pattern, value, parsed, ?_⟩
  rw [textRoute, read, parsed]

end Routes

theorem LongDoubleFormat.totalWidth_partsOfReading
    (format : LongDoubleFormat)
    (pattern : UInt64)
    (value : Decimal) :
    totalWidth (format.partsOfReading pattern value) =
      format.encodedLength := by
  cases format <;> rfl

/-- Storing fails for want of room only. -/
theorem LongDoubleFormat.error_of_store
    {format : LongDoubleFormat}
    {order : ByteOrder}
    {parts : List Scalar}
    {destination changed : List UInt8}
    {error : Error}
    (filled : totalWidth parts = format.encodedLength)
    (failed : format.store order parts destination = .error error changed) :
    error = .outOfBounds := by
  rw [format.store_settles order filled, Action.settled_eq_error_iff] at failed
  dsimp only at failed
  by_cases room : format.encodedLength ≤ destination.length
  · rw [if_pos room] at failed
    cases failed.1
  · rw [if_neg room] at failed
    exact (Except.error.inj failed.1).symm

/-- Encoding reports a text as no number exactly if it has been refused. -/
theorem TextRoute.exists_notDecimal_iff
    (route : TextRoute)
    (refusal : String)
    (format : LongDoubleFormat)
    (order : ByteOrder)
    (destination : List UInt8) :
    (∃ reported changed,
        route.encode (.notDecimal refusal) format order destination =
          .error (.notDecimal reported) changed) ↔
      route = .refused := by
  constructor
  · rintro ⟨reported, changed, failed⟩
    cases route with
    | refused => rfl
    | asDouble pattern =>
        cases LongDoubleFormat.error_of_store
          (format.totalWidth_partsOfDouble pattern) failed
    | asDecimal pattern value =>
        cases LongDoubleFormat.error_of_store
          (format.totalWidth_partsOfReading pattern value) failed
  · rintro rfl
    exact ⟨refusal, destination, rfl⟩

/-! ## What is read and which way it goes -/

/-- A decimal number is what has been written, up to a bound on its exponent. -/
structure Decimal.Reads (value : Decimal) (written : WrittenDecimal) : Prop where
  negative : value.negative = written.sign.isNegative
  digits : value.digits = numberOfDigits written.digits
  exponent :
    value.exponent =
      max (-(2 ^ 32 - 1)) (min written.exponent (2 ^ 32 - 1)) -
        written.fraction.length
  exact :
    |written.exponent| ≤ 2 ^ 32 - 1 →
      (value.digits : ℚ) * 10 ^ value.exponent = written.magnitude
  significant : value.significant = (Nat.digits 10 value.digits).length

theorem WrittenDecimal.reads_decimal
    (written : WrittenDecimal)
    (short : written.digits.length < 2 ^ 31) :
    written.decimal.Reads written where
  negative := rfl
  digits := rfl
  exponent := by
    rw [written.exponent_decimal short, written.readExponent_eq]
  exact := written.magnitude_decimal short
  significant := (written.counted_decimal short).significant_eq

/--
The reader of decimal numbers takes the written ones and reads each of them
exactly.  With any reader of doubles that takes the numbers, encoding reports a
text as no number exactly if it is none, leaves exactly the infinities and what
is not a number to that reader and reads every decimal number itself.  Encoding
as it is defined goes that way with a reader that rounds once.
-/
theorem text_is_read_exactly
    (text : String)
    (short : text.utf8ByteSize < 2 ^ 31) :
    ((Literal.parseDecimal text.toList).isSome ↔
        Literal.IsDecimalText text.toList) ∧
      (∀ written : WrittenDecimal, written.render = text.toList →
        ∃ value,
          Literal.parseDecimal text.toList = some value ∧
            value.Reads written) ∧
      (∀ readDouble, Literal.AcceptsNumbers readDouble →
        (∀ format order destination,
          (∃ reported changed,
              encodeTextBy readDouble text format order destination =
                .error (.notDecimal reported) changed) ↔
            ¬ Literal.IsNumberText (trimBlanks text.toList)) ∧
        (∀ pattern,
          textRoute readDouble (trimBlanks text.toList) = .asDouble pattern ↔
            Literal.IsSpecialText (trimBlanks text.toList) ∧
              readDouble (trimBlanks text.toList) = some pattern) ∧
        (Literal.IsDecimalText (trimBlanks text.toList) →
          ∃ pattern value,
            Literal.parseDecimal (trimBlanks text.toList) = some value ∧
              textRoute readDouble (trimBlanks text.toList) =
                .asDecimal pattern value)) ∧
      Literal.AcceptsNumbers Literal.readDouble ∧
      (∀ format order,
        (LongDoubleSource.text text).encode format order =
          encodeTextBy Literal.readDouble text format order) := by
  refine ⟨Literal.isSome_parseDecimal_iff, ?_, ?_,
    Literal.acceptsNumbers_readDouble, encode_eq_encodeTextBy text⟩
  · intro written rendered
    refine ⟨written.decimal, ?_, ?_⟩
    · rw [← rendered]
      exact written.parseDecimal_render
    · apply written.reads_decimal
      apply WrittenDecimal.length_digits_lt _ short
      rw [rendered]
  · intro readDouble accepts
    refine ⟨?_, textRoute_eq_asDouble_iff accepts,
      exists_textRoute_of_isDecimalText accepts⟩
    intro format order destination
    rw [encodeTextBy, TextRoute.exists_notDecimal_iff,
      textRoute_eq_refused_iff accepts]

theorem blankedNumber_is_read_exactly :
    "-1.5e1".utf8ByteSize < 2 ^ 31 ∧
      (∃ value,
        Literal.parseDecimal "-1.5e1".toList = some value ∧
          value.Reads blankedText.number) ∧
      ∃ pattern value,
        textRoute Literal.readDouble "-1.5e1".toList =
          .asDecimal pattern value := by
  have short : "-1.5e1".utf8ByteSize < 2 ^ 31 := by decide +kernel
  have rendered : blankedText.number.render = "-1.5e1".toList := by
    decide +kernel
  have trimmed : trimBlanks "-1.5e1".toList = "-1.5e1".toList := by
    decide +kernel
  obtain ⟨-, reads, routes, accepts, -⟩ := text_is_read_exactly "-1.5e1" short
  refine ⟨short, reads blankedText.number rendered, ?_⟩
  obtain ⟨-, -, exactWay⟩ := routes Literal.readDouble accepts
  rw [trimmed] at exactWay
  obtain ⟨pattern, value, -, route⟩ :=
    exactWay ⟨blankedText.number, rendered⟩
  exact ⟨pattern, value, route⟩

end CallFrame
