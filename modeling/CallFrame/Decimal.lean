import CallFrame.Binary.Rounding

/-!
# Decimal numbers

A decimal number is a sign, a natural number and a power of ten, kept exactly.
Its magnitude is a ratio, and rounding it to a binary format is rounding that
ratio.

Two shortcuts keep huge exponents from being expanded.  A number with more
than 4940 digits before its point is beyond every format, and one that starts
more than 4980 places behind its point rounds to zero in every format.
-/

namespace CallFrame

/-- A signed number `digits * 10 ^ exponent`. -/
structure Decimal where
  /-- Whether the number is written with a minus sign, which zero keeps. -/
  negative : Bool
  /-- The digits, read as one number. -/
  digits : Nat
  /-- The power of ten that scales the digits. -/
  exponent : Int
  /-- How many digits there are, leading zeros not counted. -/
  significant : Nat
deriving DecidableEq, Repr

/-- Bring an exponent into the range of 64-bit integers. -/
def saturate (exponent : Int) : Int :=
  max Int64.minValue.toInt (min exponent Int64.maxValue.toInt)

/-- A power of ten. -/
def powerOfTen (exponent : Nat) : Nat :=
  Nat.pow 10 exponent

theorem powerOfTen_pos (exponent : Nat) : 0 < powerOfTen exponent :=
  Nat.pow_pos (by decide)

namespace Decimal

/-- The most digits before the point that some format may still hold. -/
def overflowDigits : Int :=
  4940

/-- The place of the first digit below which every format rounds to zero. -/
def underflowDigits : Int :=
  -4980

/-- The place of the first digit, counted from the point to the left. -/
def scale (decimal : Decimal) : Int :=
  saturate ((decimal.significant : Int) + decimal.exponent)

/-- The exact magnitude, or none when it is beyond every format. -/
def magnitude (decimal : Decimal) : Option Ratio :=
  if decimal.significant = 0 then some .zero
  else if overflowDigits < decimal.scale then none
  else if decimal.scale < underflowDigits then some .zero
  else if UInt32.size ≤ decimal.exponent.natAbs then none
  else if 0 ≤ decimal.exponent then
    some (.ofNat (decimal.digits * powerOfTen decimal.exponent.natAbs))
  else
    some ⟨decimal.digits, powerOfTen decimal.exponent.natAbs,
      powerOfTen_pos _⟩

/-- Round the magnitude to a shape. -/
def round (decimal : Decimal) (shape : Shape) : Rounded :=
  match decimal.magnitude with
  | some ratio => ratio.round shape
  | none => .infinite

end Decimal

end CallFrame
