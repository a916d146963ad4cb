import CallFrame.Decimal

/-!
# Number literals

A literal is a decimal number, an infinity or not a number.  A decimal number
is an optional sign, digits with at most one point among them, and optionally
an exponent: the letter `e` in either case, an optional sign and at least one
digit.  At least one digit must stand beside the point.  The other literals
are the words `inf`, `infinity` and `nan` in any case, with an optional sign.

A written exponent beyond `2 ^ 32 - 1` in absolute value is taken for that
bound, which is far outside the range of every format.
-/

namespace CallFrame

/-- What a text can denote. -/
inductive Literal where
  | decimal (value : Decimal)
  | infinity (negative : Bool)
  | nan (negative : Bool)
deriving DecidableEq, Repr

namespace Literal

/-- Whether a text starts with a minus sign. -/
def isNegative (text : List Char) : Bool :=
  text.head? == some '-'

/-- A text without its sign, if it has one. -/
def withoutSign : List Char → List Char
  | [] => []
  | first :: rest =>
    if first = '-' ∨ first = '+' then rest else first :: rest

/-- The part of a text in front of the first mark. -/
def beforeMark (isMark : Char → Bool) (text : List Char) : List Char :=
  text.takeWhile fun character => !isMark character

/-- The part of a text behind the first mark, if there is a mark. -/
def afterMark?
    (isMark : Char → Bool)
    (text : List Char) :
    Option (List Char) :=
  (text.dropWhile fun character => !isMark character).tail?

/-- Whether a character announces an exponent. -/
def isExponentMark (character : Char) : Bool :=
  character == 'e' || character == 'E'

/-- Whether a character is the decimal point. -/
def isPoint (character : Char) : Bool :=
  character == '.'

/-- Whether a text is digits only, and at least one. -/
def isDigits (text : List Char) : Bool :=
  !text.isEmpty && text.all Char.isDigit

/-- The value of a decimal digit. -/
def digitValue (digit : Char) : Nat :=
  digit.toNat - '0'.toNat

/-- The number that digits denote. -/
def digitsValue (digits : List Char) : Nat :=
  digits.foldl (fun value digit => 10 * value + digitValue digit) 0

/-- The greatest absolute value that a written exponent is read as. -/
def exponentBound : Nat :=
  UInt32.size - 1

/-- The number that the digits of an exponent denote, up to the bound. -/
def exponentMagnitude (digits : List Char) : Nat :=
  digits.foldl
    (fun value digit => min (10 * value + digitValue digit) exponentBound) 0

/-- Read a written exponent. -/
def parseExponent (text : List Char) : Option Int :=
  let digits := withoutSign text
  if isDigits digits then
    let magnitude : Int := exponentMagnitude digits
    some (if isNegative text then -magnitude else magnitude)
  else
    none

/-- The exponent of a text, which is zero when none is written. -/
def exponentPart (text : List Char) : Option Int :=
  match afterMark? isExponentMark text with
  | some written => parseExponent written
  | none => some 0

/-- Read a decimal number. -/
def parseDecimal (text : List Char) : Option Decimal :=
  let unsigned := withoutSign text
  let mantissa := beforeMark isExponentMark unsigned
  let fraction := (afterMark? isPoint mantissa).getD []
  let digits := beforeMark isPoint mantissa ++ fraction
  match exponentPart unsigned with
  | some exponent =>
    if isDigits digits then
      some {
        negative := isNegative text
        digits := digitsValue digits
        exponent := saturate (exponent - (fraction.length : Int))
        significant := (digits.dropWhile (· == '0')).length }
    else
      none
  | none => none

/-- Read an infinity or not a number. -/
def parseSpecial (text : List Char) : Option Literal :=
  let word := String.ofList ((withoutSign text).map Char.toLower)
  if word = "inf" ∨ word = "infinity" then
    some (.infinity (isNegative text))
  else if word = "nan" then
    some (.nan (isNegative text))
  else
    none

/-- Read a literal. -/
def parse (text : List Char) : Option Literal :=
  match parseDecimal text with
  | some value => some (.decimal value)
  | none => parseSpecial text

end Literal

end CallFrame
