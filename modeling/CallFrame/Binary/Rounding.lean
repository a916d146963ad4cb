/-!
# Rounding of a rational to a binary format

A magnitude is held as an exact ratio of natural numbers and is rounded once,
to the nearest number of a binary format, a half going to the even neighbour.

A binary format is given by its shape: the number of significand bits, and the
exponents of its smallest normal and of its largest finite number.  Below the
smallest normal number the exponent stays put and the significand loses its
leading bits, so that the same rule covers gradual underflow.
-/

namespace CallFrame

/-- The number of bits of a natural number, none for zero. -/
def bitLength (value : Nat) : Nat :=
  if value = 0 then 0 else value.log2 + 1

theorem one_shiftLeft_pos (exponent : Nat) : 0 < 1 <<< exponent := by
  rw [Nat.one_shiftLeft]
  exact Nat.two_pow_pos exponent

/-- The shape of a binary floating point format. -/
structure Shape where
  /-- The number of significand bits, the leading one included. -/
  precision : Nat
  /-- The exponent of the smallest normal number. -/
  minExponent : Int
  /-- The exponent of the largest finite number. -/
  maxExponent : Int
deriving DecidableEq, Repr

namespace Shape

/-- The shape of `double`. -/
def binary64 : Shape :=
  ⟨53, -1022, 1023⟩

/-- The shape of the ten-byte extended format. -/
def x87 : Shape :=
  ⟨64, -16382, 16383⟩

/-- The shape of quadruple precision. -/
def binary128 : Shape :=
  ⟨113, -16382, 16383⟩

end Shape

/-- A magnitude rounded to a shape. -/
inductive Rounded where
  /-- The magnitude rounds to zero. -/
  | zero
  /--
  The number `significand * 2 ^ (exponent - precision + 1)`; it is subnormal
  when the leading bit of the significand is clear.
  -/
  | finite (exponent : Int) (significand : Nat)
  /-- The magnitude rounds beyond the largest finite number. -/
  | infinite
deriving DecidableEq, Repr

/-- A non-negative rational number, not necessarily in lowest terms. -/
structure Ratio where
  /-- The number above the line. -/
  numerator : Nat
  /-- The number below the line. -/
  denominator : Nat
  /-- The number below the line is not zero. -/
  positive : 0 < denominator
deriving DecidableEq

/-- A quotient with what the division leaves over. -/
structure Division where
  /-- The whole part. -/
  quotient : Nat
  /-- What is left over, less than the divisor. -/
  remainder : Nat
  /-- The number that was divided by. -/
  divisor : Nat
deriving DecidableEq, Repr

/-- The nearest whole number to a division, a half going to the even one. -/
def Division.nearest (division : Division) : Nat :=
  match compare (2 * division.remainder) division.divisor with
  | .gt => division.quotient + 1
  | .eq => division.quotient + division.quotient % 2
  | .lt => division.quotient

namespace Ratio

/-- The ratio that is zero. -/
def zero : Ratio :=
  ⟨0, 1, Nat.one_pos⟩

/-- A natural number as a ratio. -/
def ofNat (value : Nat) : Ratio :=
  ⟨value, 1, Nat.one_pos⟩

/-- The ratio `mantissa * 2 ^ exponent`. -/
def ofBinary (mantissa : Nat) (exponent : Int) : Ratio :=
  if 0 ≤ exponent then
    ofNat (mantissa <<< exponent.toNat)
  else
    ⟨mantissa, 1 <<< (-exponent).toNat, one_shiftLeft_pos _⟩

/-- Whether a ratio is zero. -/
def isZero (ratio : Ratio) : Bool :=
  ratio.numerator == 0

/-- Whether one ratio is less than another. -/
def isBelow (left right : Ratio) : Bool :=
  left.numerator * right.denominator < right.numerator * left.denominator

/-- The distance between two ratios. -/
def distance (left right : Ratio) : Ratio where
  numerator :=
    (left.numerator * right.denominator - right.numerator * left.denominator) +
      (right.numerator * left.denominator - left.numerator * right.denominator)
  denominator := left.denominator * right.denominator
  positive := Nat.mul_pos left.positive right.positive

/-- The division that `ratio * 2 ^ scale` is. -/
def scaled (ratio : Ratio) (scale : Int) : Division :=
  let numerator := ratio.numerator <<< scale.toNat
  let divisor := ratio.denominator <<< (-scale).toNat
  ⟨numerator / divisor, numerator % divisor, divisor⟩

/--
The exponent of the greatest power of two that is not above a ratio other than
zero.  The lengths of its two numbers leave a choice of two, and a comparison
settles it.
-/
def log2 (ratio : Ratio) : Int :=
  let estimate : Int :=
    (bitLength ratio.numerator : Int) - (bitLength ratio.denominator : Int)
  if ratio.numerator <<< (-estimate).toNat <
      ratio.denominator <<< estimate.toNat then
    estimate - 1
  else
    estimate

/-- Round a ratio to the nearest number of a shape, a half going to even. -/
def round (ratio : Ratio) (shape : Shape) : Rounded :=
  if ratio.numerator = 0 then .zero
  else
    let exponent := max ratio.log2 shape.minExponent
    let nearest :=
      (ratio.scaled ((shape.precision : Int) - 1 - exponent)).nearest
    let carries : Bool := shape.precision < bitLength nearest
    let significand := if carries then nearest / 2 else nearest
    let exponent := if carries then exponent + 1 else exponent
    if shape.maxExponent < exponent then .infinite
    else if significand = 0 then .zero
    else if significand < 1 <<< 128 then .finite exponent significand
    else .infinite

end Ratio

end CallFrame
