import CallFrame.Decimal.Literal
import CallFrame.Proofs.Rounding.Decimal
import CallFrame.Text.Blank

/-!
# Written decimal numbers

A written decimal number is given by its parts: a sign, the digits on both sides
of the point, and an exponent.  Rendering the parts yields exactly the texts that
are decimal numbers, and the magnitude is read off the parts.

The reader takes a rendered number apart again.  It keeps the sign and all of
the digits; of an exponent that is out of bounds it keeps the bound, which leads
to the same shortcut of rounding as the exponent itself.
-/

namespace CallFrame

/-! ## Parts -/

/-- The sign in front of a written number, if there is one. -/
inductive WrittenSign where
  | absent
  | plus
  | minus
deriving DecidableEq, Repr

namespace WrittenSign

def render : WrittenSign → List Char
  | absent => []
  | plus => ['+']
  | minus => ['-']

def isNegative : WrittenSign → Bool
  | minus => true
  | absent | plus => false

/-- A number with a sign in front of it. -/
def apply (sign : WrittenSign) (number : ℕ) : ℤ :=
  if sign.isNegative then -number else number

end WrittenSign

/-- Digits as they are written, the most significant one first. -/
def renderDigits (digits : List (Fin 10)) : List Char :=
  digits.map fun digit : Fin 10 => Nat.digitChar digit.val

/-- The number that written digits denote. -/
def numberOfDigits (digits : List (Fin 10)) : ℕ :=
  Nat.ofDigits 10 (digits.reverse.map Fin.val)

/-- Digits without the zeros in front of them. -/
def significantDigits (digits : List (Fin 10)) : List (Fin 10) :=
  digits.dropWhile fun digit => digit.val == 0

/-- The exponent behind a written number. -/
structure WrittenExponent where
  /-- Whether it is announced by a capital letter. -/
  capital : Bool
  sign : WrittenSign
  digits : List (Fin 10)
  nonempty : digits ≠ []

namespace WrittenExponent

def render (exponent : WrittenExponent) : List Char :=
  (if exponent.capital then 'E' else 'e') ::
    (exponent.sign.render ++ renderDigits exponent.digits)

def value (exponent : WrittenExponent) : ℤ :=
  exponent.sign.apply (numberOfDigits exponent.digits)

end WrittenExponent

/-- A decimal number as it is written. -/
structure WrittenDecimal where
  sign : WrittenSign
  /-- The digits in front of the point. -/
  whole : List (Fin 10)
  /-- The digits behind the point, if there is a point. -/
  fraction? : Option (List (Fin 10))
  exponent? : Option WrittenExponent
  nonempty : whole ++ fraction?.getD [] ≠ []

namespace WrittenDecimal

def fraction (written : WrittenDecimal) : List (Fin 10) :=
  written.fraction?.getD []

def digits (written : WrittenDecimal) : List (Fin 10) :=
  written.whole ++ written.fraction

def renderFraction (written : WrittenDecimal) : List Char :=
  match written.fraction? with
  | some digits => '.' :: renderDigits digits
  | none => []

def renderExponent (written : WrittenDecimal) : List Char :=
  match written.exponent? with
  | some exponent => exponent.render
  | none => []

def render (written : WrittenDecimal) : List Char :=
  written.sign.render ++
    (renderDigits written.whole ++ written.renderFraction ++
      written.renderExponent)

def exponent (written : WrittenDecimal) : ℤ :=
  (written.exponent?.map WrittenExponent.value).getD 0

/-- The exact magnitude of a written number. -/
def magnitude (written : WrittenDecimal) : ℚ :=
  numberOfDigits written.digits *
    10 ^ (written.exponent - written.fraction.length)

theorem magnitude_nonneg (written : WrittenDecimal) : 0 ≤ written.magnitude := by
  rw [magnitude]
  positivity

end WrittenDecimal

/-! ## Digits -/

theorem isDigit_digitChar (digit : Fin 10) :
    (Nat.digitChar digit).isDigit = true := by
  revert digit
  decide

theorem digitValue_digitChar (digit : Fin 10) :
    Literal.digitValue (Nat.digitChar digit) = digit := by
  revert digit
  decide

@[simp]
theorem length_renderDigits (digits : List (Fin 10)) :
    (renderDigits digits).length = digits.length :=
  List.length_map _

theorem isDigit_of_mem_renderDigits
    {digits : List (Fin 10)}
    {character : Char}
    (member : character ∈ renderDigits digits) :
    character.isDigit = true := by
  obtain ⟨digit, -, rfl⟩ := List.mem_map.mp member
  exact isDigit_digitChar digit

@[simp]
theorem numberOfDigits_nil : numberOfDigits [] = 0 := rfl

theorem numberOfDigits_cons (digit : Fin 10) (rest : List (Fin 10)) :
    numberOfDigits (digit :: rest) =
      digit * 10 ^ rest.length + numberOfDigits rest := by
  simp [numberOfDigits, Nat.ofDigits_append]
  ring

theorem foldl_digitValue (digits : List (Fin 10)) (start : ℕ) :
    (renderDigits digits).foldl
        (fun value digit => 10 * value + Literal.digitValue digit) start =
      start * 10 ^ digits.length + numberOfDigits digits := by
  induction digits generalizing start with
  | nil => simp [renderDigits]
  | cons digit rest induction =>
      rw [numberOfDigits_cons, List.length_cons, pow_succ]
      rw [renderDigits, List.map_cons, List.foldl_cons, ← renderDigits,
        induction, digitValue_digitChar]
      ring

theorem digitsValue_renderDigits (digits : List (Fin 10)) :
    Literal.digitsValue (renderDigits digits) = numberOfDigits digits := by
  rw [Literal.digitsValue, foldl_digitValue, zero_mul, zero_add]

theorem numberOfDigits_lt (digits : List (Fin 10)) :
    numberOfDigits digits < 10 ^ digits.length := by
  induction digits with
  | nil => simp
  | cons digit rest induction =>
      have bound := digit.isLt
      rw [numberOfDigits_cons, List.length_cons, pow_succ]
      nlinarith [Nat.pow_pos (n := rest.length) (show 0 < 10 by decide)]

/-- Zeros in front do not count. -/
theorem numberOfDigits_significantDigits (digits : List (Fin 10)) :
    numberOfDigits (significantDigits digits) = numberOfDigits digits := by
  induction digits with
  | nil => rfl
  | cons digit rest induction =>
      by_cases zero : digit.val = 0
      · have drops : significantDigits (digit :: rest) = significantDigits rest :=
          List.dropWhile_cons_of_pos (by simpa using zero)
        rw [drops, induction, numberOfDigits_cons, zero, zero_mul, zero_add]
      · have stays : significantDigits (digit :: rest) = digit :: rest :=
          List.dropWhile_cons_of_neg (by simpa using zero)
        rw [stays]

theorem pow_le_numberOfDigits
    {digits : List (Fin 10)}
    (nonempty : (significantDigits digits).length ≠ 0) :
    10 ^ ((significantDigits digits).length - 1) ≤ numberOfDigits digits := by
  rw [← numberOfDigits_significantDigits]
  cases kept : significantDigits digits with
  | nil =>
      rw [kept] at nonempty
      exact absurd rfl nonempty
  | cons digit rest =>
      have nonzero : digit.val ≠ 0 := by
        have first := List.head?_dropWhile_not (fun digit : Fin 10 => digit.val == 0) digits
        rw [← significantDigits, kept] at first
        simpa using first
      rw [numberOfDigits_cons, List.length_cons, Nat.add_sub_cancel]
      calc 10 ^ rest.length
          ≤ digit.val * 10 ^ rest.length :=
            Nat.le_mul_of_pos_left _ (Nat.pos_of_ne_zero nonzero)
        _ ≤ digit.val * 10 ^ rest.length + numberOfDigits rest :=
            Nat.le_add_right _ _

theorem dropWhile_renderDigits (digits : List (Fin 10)) :
    (renderDigits digits).dropWhile (· == '0') =
      renderDigits (significantDigits digits) := by
  have zeros (digit : Fin 10) :
      (Nat.digitChar digit.val == '0') = (digit.val == 0) := by
    revert digit
    decide
  rw [renderDigits, List.dropWhile_map, renderDigits, significantDigits]
  congr 2
  funext digit
  exact zeros digit

/-- An exponent that is read is cut off at the bound. -/
theorem foldl_exponentMagnitude (digits : List (Fin 10)) (start : ℕ) :
    (renderDigits digits).foldl
        (fun value digit =>
          min (10 * value + Literal.digitValue digit) Literal.exponentBound)
        (min start Literal.exponentBound) =
      min (start * 10 ^ digits.length + numberOfDigits digits)
        Literal.exponentBound := by
  induction digits generalizing start with
  | nil => simp [renderDigits]
  | cons digit rest induction =>
      have step :
          min (10 * min start Literal.exponentBound + digit.val)
              Literal.exponentBound =
            min (10 * start + digit.val) Literal.exponentBound := by
        omega
      rw [renderDigits, List.map_cons, List.foldl_cons, ← renderDigits,
        digitValue_digitChar, step, induction, numberOfDigits_cons,
        List.length_cons, pow_succ]
      congr 1
      ring

theorem exponentMagnitude_renderDigits (digits : List (Fin 10)) :
    Literal.exponentMagnitude (renderDigits digits) =
      min (numberOfDigits digits) Literal.exponentBound := by
  have whole := foldl_exponentMagnitude digits 0
  rw [zero_mul, zero_add, Nat.zero_min] at whole
  exact whole

end CallFrame
