import CallFrame.Decimal.Literal
import CallFrame.LongDouble.Format
import CallFrame.LongDouble.Pattern
import CallFrame.Scalar
import CallFrame.Text.Blank

/-!
# The bytes of a `long double`

A `long double` is made from a double or from text.  Every double has an exact
counterpart in each of the four formats.  Text is read exactly and rounded
once to the precision of the format, which keeps the significand bits that a
double in between would lose.

A format stores a value as one or two numbers of fixed width, one behind the
other.  Those of the extended format are stored least significant byte first
on every platform; the others follow the byte order.

The destination must have room for the format.  It is cleared before the
numbers are stored at its start, so whatever lies behind them becomes zero.
-/

namespace CallFrame

namespace LongDoubleFormat

/-- The numbers that an extended pattern is stored as. -/
def extendedParts (pattern : ExtendedPattern) : List Scalar :=
  [.uint64 pattern.significand, .uint16 pattern.signExponent]

/-- The numbers that a pair of doubles is stored as. -/
def pairParts (pair : DoublePair) : List Scalar :=
  [.double pair.high, .double pair.low]

/-- The numbers that a double is stored as in a format. -/
def partsOfDouble (format : LongDoubleFormat) (pattern : UInt64) : List Scalar :=
  match format with
  | double => [.double pattern]
  | x87 => extendedParts (extendedOfDouble pattern)
  | binary128 => [.uint128 (quadrupleOfDouble pattern)]
  | doubleDouble => pairParts ⟨pattern, 0⟩

/-- The numbers that a decimal number is stored as in a format. -/
def partsOfDecimal (format : LongDoubleFormat) (decimal : Decimal) : List Scalar :=
  let negative := decimal.negative
  match format with
  | double => [.double (doubleOfRounded negative (decimal.round .binary64))]
  | x87 => extendedParts (extendedOfRounded negative (decimal.round .x87))
  | binary128 =>
    [.uint128 (quadrupleOfRounded negative (decimal.round .binary128))]
  | doubleDouble => pairParts (doublePairOfDecimal decimal)

/-- The numbers that a literal is stored as in a format. -/
def partsOfLiteral (format : LongDoubleFormat) (literal : Literal) : List Scalar :=
  match literal with
  | .decimal decimal => format.partsOfDecimal decimal
  | .infinity negative => format.partsOfDouble (doubleInfinity negative)
  | .nan negative => format.partsOfDouble (doubleNan negative)

/-- The byte order in which a format stores its numbers. -/
def storageOrder (format : LongDoubleFormat) (order : ByteOrder) : ByteOrder :=
  match format with
  | x87 => .littleEndian
  | double | binary128 | doubleDouble => order

/-- Clear a destination and store numbers at its start. -/
def store
    (format : LongDoubleFormat)
    (order : ByteOrder)
    (parts : List Scalar) :
    Action (List UInt8) Unit := do
  let destination ← get
  Action.require (format.encodedLength ≤ destination.length) .outOfBounds
  set (List.replicate destination.length (0 : UInt8))
  Cursor.fromStart (parts.forM (Cursor.write (format.storageOrder order)))

/-- The number of bytes that numbers take one behind the other. -/
def totalWidth (parts : List Scalar) : Nat :=
  parts.foldr (fun part width => part.kind.width + width) 0

theorem totalWidth_partsOfDouble
    (format : LongDoubleFormat)
    (pattern : UInt64) :
    totalWidth (format.partsOfDouble pattern) = format.encodedLength := by
  cases format <;> rfl

/-- The numbers of a value fill the bytes of the format exactly. -/
theorem totalWidth_partsOfLiteral
    (format : LongDoubleFormat)
    (literal : Literal) :
    totalWidth (format.partsOfLiteral literal) = format.encodedLength := by
  cases literal with
  | decimal value => cases format <;> rfl
  | infinity negative => exact totalWidth_partsOfDouble format _
  | nan negative => exact totalWidth_partsOfDouble format _

end LongDoubleFormat

/-- What a `long double` is made from. -/
inductive LongDoubleSource where
  /-- A double, given by its bit pattern. -/
  | double (pattern : UInt64)
  /-- The text of a number. -/
  | text (content : String)
deriving DecidableEq, Repr

/-- Encode a source in a format, filling the whole destination. -/
def LongDoubleSource.encode
    (source : LongDoubleSource)
    (format : LongDoubleFormat)
    (order : ByteOrder) :
    Action (List UInt8) Unit :=
  match source with
  | double pattern => format.store order (format.partsOfDouble pattern)
  | text content =>
    let trimmed := trimBlanks content.toList
    match Literal.parse trimmed with
    | some literal => format.store order (format.partsOfLiteral literal)
    | none => throw (.notDecimal (String.ofList trimmed))

end CallFrame
