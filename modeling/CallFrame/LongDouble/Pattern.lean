import CallFrame.Decimal

/-!
# Bit patterns of floating point numbers

A bit pattern has the sign on top, the exponent field below it and the
significand or its fraction at the bottom.  Patterns are made in two ways.
Those of a double are moved into a wider format field by field, which loses
nothing.  Those of a rounded magnitude are assembled from its exponent and its
significand.

The extended format stores the leading bit of the significand; the others
leave it out, since the exponent field tells whether it is set.
-/

namespace CallFrame

/-- A bit pattern of the extended format, in its two parts. -/
structure ExtendedPattern where
  /-- The sign bit above the exponent field. -/
  signExponent : UInt16
  /-- The significand with its leading bit. -/
  significand : UInt64
deriving DecidableEq, Repr

/-! ## Fields of a double -/

/-- The sign, the exponent field and the fraction field of a bit pattern. -/
structure BinaryFields where
  /-- One when the sign bit is set. -/
  sign : Nat
  /-- The exponent with its bias, zero for zeros and subnormal numbers. -/
  exponent : Nat
  /-- The bits of the significand below the leading one. -/
  fraction : Nat
deriving DecidableEq, Repr

namespace BinaryFields

/-- The fields of the bit pattern of a double. -/
def ofDouble (pattern : UInt64) : BinaryFields where
  sign := pattern.toNat >>> 63
  exponent := (pattern.toNat >>> 52) % (1 <<< 11)
  fraction := pattern.toNat % (1 <<< 52)

/--
The fields of a double with the exponent field widened from eleven bits to
fifteen.  A subnormal double is a normal number in the wider range: its
leading one moves above the fraction.
-/
def widen (fields : BinaryFields) : BinaryFields :=
  if fields.exponent = 0 then
    if fields.fraction = 0 then fields
    else
      let top := fields.fraction.log2
      { fields with
        exponent := top + (16383 - 1023) + 1 - 52
        fraction := (fields.fraction <<< (52 - top)) % (1 <<< 52) }
  else if fields.exponent = 0x7ff then
    { fields with exponent := 0x7fff }
  else
    { fields with exponent := fields.exponent + (16383 - 1023) }

end BinaryFields

/-! ## Wider patterns of a double -/

/-- The pattern of a double in the extended format. -/
def extendedOfDouble (pattern : UInt64) : ExtendedPattern :=
  let fields := (BinaryFields.ofDouble pattern).widen
  let leading := if fields.exponent = 0 then 0 else 1 <<< 63
  { signExponent := .ofNat (fields.sign <<< 15 + fields.exponent)
    significand := .ofNat (leading + fields.fraction <<< 11) }

/-- The pattern of a double in quadruple precision. -/
def quadrupleOfDouble (pattern : UInt64) : BitVec 128 :=
  let fields := (BinaryFields.ofDouble pattern).widen
  .ofNat 128 ((fields.sign <<< 15 + fields.exponent) <<< 112 +
    fields.fraction <<< 60)

/-! ## Patterns of a rounded magnitude -/

/--
The exponent field of a finite number: zero when the leading bit of its
significand is clear, and the exponent with the bias otherwise.
-/
def exponentField
    (precision bias : Nat)
    (exponent : Int)
    (significand : Nat) :
    Nat :=
  if significand >>> (precision - 1) = 0 then 0
  else (exponent + (bias : Int)).toNat

/-- The bit of a sign. -/
def signBit (negative : Bool) : Nat :=
  if negative then 1 else 0

/-- The pattern of a rounded magnitude in the extended format. -/
def extendedOfRounded (negative : Bool) (rounded : Rounded) : ExtendedPattern :=
  let sign := signBit negative <<< 15
  match rounded with
  | .zero => ⟨.ofNat sign, 0⟩
  | .infinite => ⟨.ofNat (sign + 0x7fff), .ofNat (1 <<< 63)⟩
  | .finite exponent significand =>
    ⟨.ofNat (sign + exponentField 64 16383 exponent significand),
      .ofNat significand⟩

/-- The pattern of a rounded magnitude in quadruple precision. -/
def quadrupleOfRounded (negative : Bool) (rounded : Rounded) : BitVec 128 :=
  let sign := signBit negative <<< 15
  match rounded with
  | .zero => .ofNat 128 (sign <<< 112)
  | .infinite => .ofNat 128 ((sign + 0x7fff) <<< 112)
  | .finite exponent significand =>
    .ofNat 128
      ((sign + exponentField 113 16383 exponent significand) <<< 112 +
        significand % (1 <<< 112))

/-- The pattern of a rounded magnitude as a double. -/
def doubleOfRounded (negative : Bool) (rounded : Rounded) : UInt64 :=
  let sign := signBit negative <<< 11
  match rounded with
  | .zero => .ofNat (sign <<< 52)
  | .infinite => .ofNat ((sign + 0x7ff) <<< 52)
  | .finite exponent significand =>
    .ofNat ((sign + exponentField 53 1023 exponent significand) <<< 52 +
      significand % (1 <<< 52))

/-- Two doubles whose sum is the number that they stand for. -/
structure DoublePair where
  /-- The pattern of the double nearest to the number. -/
  high : UInt64
  /-- The pattern of the double nearest to what the first one leaves over. -/
  low : UInt64
deriving DecidableEq, Repr

/--
The pair of doubles for a decimal number.  Nothing left over is a positive
zero, also behind a zero or an infinity of either sign.
-/
def doublePairOfDecimal (decimal : Decimal) : DoublePair :=
  match decimal.magnitude with
  | none => ⟨doubleOfRounded decimal.negative .infinite, 0⟩
  | some magnitude =>
    match magnitude.round .binary64 with
    | .finite exponent significand =>
      let high := Ratio.ofBinary significand (exponent - 52)
      let rest := magnitude.distance high
      let low :=
        if rest.isZero then 0
        else
          doubleOfRounded (decimal.negative != magnitude.isBelow high)
            (rest.round .binary64)
      ⟨doubleOfRounded decimal.negative (.finite exponent significand), low⟩
    | other => ⟨doubleOfRounded decimal.negative other, 0⟩

/-! ## Patterns outside the numbers -/

/-- The pattern of an infinity as a double. -/
def doubleInfinity (negative : Bool) : UInt64 :=
  if negative then 0xfff0000000000000 else 0x7ff0000000000000

/-- The pattern of a quiet double that is not a number. -/
def doubleNan (negative : Bool) : UInt64 :=
  if negative then 0xfff8000000000000 else 0x7ff8000000000000

end CallFrame
