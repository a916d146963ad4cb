import CallFrame.Proofs.Rounding.Reading

/-!
# The texts that are numbers

The reader of decimal numbers takes a text apart at marks: a sign in front, the
first exponent mark, the first point before that.  Whatever it accepts is the
rendering of a written number, since what lies between the marks must be digits;
and a rendered number is read back.  So the reader accepts exactly the renderings
of written numbers, and no text is read as two of them.

Beside the decimal numbers there are the special ones: an infinity or no number
at all, spelled as a word in any case with an optional sign.  Their letters are
no digits, so that no text is a decimal number and a special one at once.

What is read is exact as well.  The digits count without the zeros in front of
them, and the exponent is the written one unless that is out of bounds.
-/

namespace CallFrame

namespace Literal

/-! ## Taking a text apart -/

/-- A text is a sign, if it has one, in front of what follows. -/
theorem exists_sign (text : List Char) :
    ∃ sign : WrittenSign,
      text = sign.render ++ withoutSign text ∧
        isNegative text = sign.isNegative := by
  cases text with
  | nil => exact ⟨.absent, rfl, rfl⟩
  | cons first rest =>
      by_cases minus : first = '-'
      · subst minus
        exact ⟨.minus, rfl, rfl⟩
      · by_cases plus : first = '+'
        · subst plus
          exact ⟨.plus, rfl, rfl⟩
        · refine ⟨.absent, ?_, ?_⟩
          · rw [withoutSign, if_neg (not_or.mpr ⟨minus, plus⟩)]
            rfl
          · simpa [isNegative, WrittenSign.isNegative] using minus

section Marks

variable {isMark : Char → Bool} {text rest : List Char}

theorem beforeMark_of_afterMark?_eq_none
    (unmarked : afterMark? isMark text = none) :
    beforeMark isMark text = text := by
  have whole := List.takeWhile_append_dropWhile
    (p := fun character => !isMark character) (l := text)
  rw [afterMark?] at unmarked
  cases behind : text.dropWhile fun character => !isMark character with
  | nil =>
      rw [behind, List.append_nil] at whole
      exact whole
  | cons mark others =>
      rw [behind] at unmarked
      cases unmarked

theorem exists_mark_of_afterMark?
    (marked : afterMark? isMark text = some rest) :
    ∃ mark, isMark mark = true ∧
      text = beforeMark isMark text ++ mark :: rest := by
  have whole := List.takeWhile_append_dropWhile
    (p := fun character => !isMark character) (l := text)
  rw [afterMark?] at marked
  cases behind : text.dropWhile fun character => !isMark character with
  | nil =>
      rw [behind] at marked
      cases marked
  | cons mark others =>
      rw [behind] at marked whole
      cases marked
      have first := List.head?_dropWhile_not
        (fun character => !isMark character) text
      rw [behind] at first
      exact ⟨mark, by simpa using first, whole.symm⟩

end Marks

theorem exists_digitChar
    {character : Char}
    (digit : character.isDigit = true) :
    ∃ value : Fin 10, Nat.digitChar value = character := by
  have chars (value : Fin 10) :
      Nat.digitChar value = Char.ofNat (48 + value) := by
    revert value
    decide
  simp only [Char.isDigit, Bool.and_eq_true, decide_eq_true_eq] at digit
  obtain ⟨low, high⟩ := digit
  have lower : 48 ≤ character.toNat := low
  have upper : character.toNat ≤ 57 := high
  refine ⟨⟨character.toNat - 48, by omega⟩, ?_⟩
  rw [chars]
  dsimp only
  rw [Nat.add_sub_cancel' lower, Char.ofNat_toNat]

/-- Characters that are all digits are rendered digits. -/
theorem exists_renderDigits
    {text : List Char}
    (all : ∀ character ∈ text, character.isDigit = true) :
    ∃ digits, renderDigits digits = text := by
  induction text with
  | nil => exact ⟨[], rfl⟩
  | cons first rest induction =>
      rw [List.forall_mem_cons] at all
      obtain ⟨digit, rfl⟩ := exists_digitChar all.1
      obtain ⟨digits, rfl⟩ := induction all.2
      exact ⟨digit :: digits, rfl⟩

theorem exists_digits_of_isDigits
    {text : List Char}
    (digits : isDigits text = true) :
    ∃ written, renderDigits written = text ∧ written ≠ [] := by
  rw [isDigits, Bool.and_eq_true, List.all_eq_true] at digits
  obtain ⟨written, rfl⟩ := exists_renderDigits digits.2
  refine ⟨written, rfl, ?_⟩
  rintro rfl
  exact absurd digits.1 (by decide)

/-- An exponent that is read is a sign in front of digits. -/
theorem exists_written_of_parseExponent
    {text : List Char}
    {value : ℤ}
    (parsed : parseExponent text = some value) :
    ∃ (sign : WrittenSign) (digits : List (Fin 10)),
      digits ≠ [] ∧ text = sign.render ++ renderDigits digits := by
  rw [parseExponent] at parsed
  split at parsed
  · rename_i present
    obtain ⟨digits, rendered, nonempty⟩ := exists_digits_of_isDigits present
    obtain ⟨sign, split, -⟩ := exists_sign text
    refine ⟨sign, digits, nonempty, ?_⟩
    rw [rendered]
    exact split
  · cases parsed

/-- The part of a number from its exponent mark on is a written exponent. -/
theorem exists_exponent_of_exponentPart
    {text : List Char}
    {value : ℤ}
    (parsed : exponentPart text = some value) :
    ∃ exponent? : Option WrittenExponent,
      text =
        beforeMark isExponentMark text ++
          (exponent?.map WrittenExponent.render).getD [] := by
  rw [exponentPart] at parsed
  cases marked : afterMark? isExponentMark text with
  | none =>
      refine ⟨none, ?_⟩
      rw [beforeMark_of_afterMark?_eq_none marked]
      exact (List.append_nil text).symm
  | some written =>
      rw [marked] at parsed
      obtain ⟨sign, digits, nonempty, rfl⟩ :=
        exists_written_of_parseExponent parsed
      obtain ⟨mark, isMark, split⟩ := exists_mark_of_afterMark? marked
      have letter : mark = if mark == 'E' then 'E' else 'e' := by
        rw [isExponentMark, Bool.or_eq_true, beq_iff_eq, beq_iff_eq] at isMark
        rcases isMark with rfl | rfl <;> rfl
      refine ⟨some ⟨mark == 'E', sign, digits, nonempty⟩, ?_⟩
      rw [Option.map_some, Option.getD_some, WrittenExponent.render, ← letter]
      exact split

/-- The part of a number up to its exponent mark is digits around a point. -/
theorem exists_fraction_of_isDigits
    {text : List Char}
    (digits :
      isDigits
        (beforeMark isPoint text ++ (afterMark? isPoint text).getD []) = true) :
    ∃ (whole : List (Fin 10)) (fraction? : Option (List (Fin 10))),
      whole ++ fraction?.getD [] ≠ [] ∧
        text =
          renderDigits whole ++
            (fraction?.map fun behind => '.' :: renderDigits behind).getD [] := by
  obtain ⟨written, rendered, nonempty⟩ := exists_digits_of_isDigits digits
  obtain ⟨whole, fraction, rfl, wholeEq, fractionEq⟩ :=
    List.map_eq_append_iff.mp rendered
  cases marked : afterMark? isPoint text with
  | none =>
      rw [marked, Option.getD_none, List.map_eq_nil_iff] at fractionEq
      rw [fractionEq] at nonempty
      refine ⟨whole, none, nonempty, ?_⟩
      rw [beforeMark_of_afterMark?_eq_none marked] at wholeEq
      exact wholeEq.symm.trans (List.append_nil _).symm
  | some behind =>
      rw [marked, Option.getD_some] at fractionEq
      obtain ⟨mark, isMark, split⟩ := exists_mark_of_afterMark? marked
      rw [isPoint, beq_iff_eq] at isMark
      refine ⟨whole, some fraction, nonempty, ?_⟩
      rw [Option.map_some, Option.getD_some, ← isMark]
      exact split.trans (congrArg₂ (· ++ mark :: ·) wholeEq.symm fractionEq.symm)

/-- Every text that is read as a decimal number is a written one. -/
theorem exists_render_of_parseDecimal
    {text : List Char}
    {value : Decimal}
    (parsed : parseDecimal text = some value) :
    ∃ written : WrittenDecimal, written.render = text := by
  rw [parseDecimal] at parsed
  cases part : exponentPart (withoutSign text) with
  | none =>
      rw [part] at parsed
      cases parsed
  | some exponent =>
      rw [part] at parsed
      dsimp only at parsed
      split at parsed
      · rename_i digits
        obtain ⟨sign, signed, -⟩ := exists_sign text
        obtain ⟨exponent?, unsigned⟩ := exists_exponent_of_exponentPart part
        obtain ⟨whole, fraction?, nonempty, mantissa⟩ :=
          exists_fraction_of_isDigits digits
        refine ⟨⟨sign, whole, fraction?, exponent?, nonempty⟩, ?_⟩
        rw [signed, unsigned, mantissa]
        cases fraction? <;> cases exponent? <;> rfl
      · cases parsed

end Literal

/-! ## Special numbers -/

/-- The words for what is not a finite number. -/
inductive SpecialWord where
  | inf
  | infinity
  | nan
deriving DecidableEq, Repr

def SpecialWord.letters : SpecialWord → List Char
  | inf => ['i', 'n', 'f']
  | infinity => ['i', 'n', 'f', 'i', 'n', 'i', 't', 'y']
  | nan => ['n', 'a', 'n']

/-- A special number as it is written: a word in any case behind a sign. -/
structure WrittenSpecial where
  sign : WrittenSign
  word : SpecialWord
  letters : List Char
  spelled : letters.map Char.toLower = word.letters

namespace WrittenSpecial

def render (written : WrittenSpecial) : List Char :=
  written.sign.render ++ written.letters

/-- What a special number denotes. -/
def literal (written : WrittenSpecial) : Literal :=
  match written.word with
  | .inf | .infinity => .infinity written.sign.isNegative
  | .nan => .nan written.sign.isNegative

theorem toLower_digitChar (digit : Fin 10) :
    (Nat.digitChar digit).toLower = Nat.digitChar digit := by
  revert digit
  decide

variable (written : WrittenSpecial)

/-- A character of the word is a letter and neither a digit nor a sign. -/
theorem not_isDigit_of_mem_letters :
    ∀ character ∈ written.letters,
      character.isDigit = false ∧ character ≠ '-' ∧ character ≠ '+' := by
  intro character member
  have lowered : character.toLower ∈ written.word.letters := by
    rw [← written.spelled]
    exact List.mem_map_of_mem member
  have letters :
      ∀ lower ∈ written.word.letters,
        lower.isDigit = false ∧ lower ≠ '-' ∧ lower ≠ '+' := by
    cases written.word <;> simp [SpecialWord.letters]
  obtain ⟨noDigit, notMinus, notPlus⟩ := letters _ lowered
  refine ⟨?_, ?_, ?_⟩
  · by_contra digit
    rw [Bool.not_eq_false] at digit
    obtain ⟨value, rfl⟩ := Literal.exists_digitChar digit
    rw [toLower_digitChar, isDigit_digitChar] at noDigit
    cases noDigit
  · rintro rfl
    exact notMinus rfl
  · rintro rfl
    exact notPlus rfl

theorem unsigned_letters : Literal.Unsigned written.letters := by
  intro character first
  exact (written.not_isDigit_of_mem_letters character
    (List.mem_of_head? first)).2

/-- A special number is read back. -/
theorem parseSpecial_render :
    Literal.parseSpecial written.render = some written.literal := by
  rw [Literal.parseSpecial, render,
    Literal.withoutSign_render _ written.unsigned_letters,
    Literal.isNegative_render _ written.unsigned_letters, written.spelled,
    literal]
  cases written.word <;> rfl

/-- A special number has no digits and is not read as a decimal number. -/
theorem parseDecimal_render : Literal.parseDecimal written.render = none := by
  by_contra read
  obtain ⟨value, parsed⟩ := Option.ne_none_iff_exists'.mp read
  obtain ⟨number, rendered⟩ := Literal.exists_render_of_parseDecimal parsed
  obtain ⟨digit, among⟩ := List.exists_mem_of_ne_nil _ number.nonempty
  have member : Nat.digitChar digit ∈ written.render := by
    rw [← rendered, WrittenDecimal.render]
    apply List.mem_append_right
    apply List.mem_append_left
    rcases List.mem_append.mp among with whole | fraction
    · exact List.mem_append_left _ (List.mem_map_of_mem whole)
    · apply List.mem_append_right
      rw [WrittenDecimal.renderFraction]
      cases point : number.fraction? with
      | none =>
          rw [point] at fraction
          cases fraction
      | some digits =>
          rw [point] at fraction
          exact List.mem_cons_of_mem _ (List.mem_map_of_mem fraction)
  have isDigit := isDigit_digitChar digit
  rcases List.mem_append.mp member with sign | letter
  · cases kind : written.sign <;> rw [kind] at sign
    · cases sign
    · rw [List.mem_singleton.mp sign] at isDigit
      exact absurd isDigit (by decide)
    · rw [List.mem_singleton.mp sign] at isDigit
      exact absurd isDigit (by decide)
  · rw [(written.not_isDigit_of_mem_letters _ letter).1] at isDigit
    cases isDigit

end WrittenSpecial

namespace Literal

/-- Every text that is read as a special number is a written one. -/
theorem exists_render_of_parseSpecial
    {text : List Char}
    {literal : Literal}
    (parsed : parseSpecial text = some literal) :
    ∃ written : WrittenSpecial, written.render = text := by
  obtain ⟨sign, signed, -⟩ := exists_sign text
  have spelled (word : SpecialWord)
      (lowered :
        String.ofList ((withoutSign text).map Char.toLower) =
          String.ofList word.letters) :
      ∃ written : WrittenSpecial, written.render = text :=
    ⟨⟨sign, word, withoutSign text, String.ofList_injective lowered⟩,
      signed.symm⟩
  rw [parseSpecial] at parsed
  split at parsed
  · rename_i infinite
    rcases infinite with short | long
    · exact spelled .inf short
    · exact spelled .infinity long
  · split at parsed
    · rename_i invalid
      exact spelled .nan invalid
    · cases parsed

/-! ## Numbers -/

/-- A text that is a decimal number. -/
def IsDecimalText (text : List Char) : Prop :=
  ∃ written : WrittenDecimal, written.render = text

/-- A text that is an infinity or not a number. -/
def IsSpecialText (text : List Char) : Prop :=
  ∃ written : WrittenSpecial, written.render = text

/-- A text that denotes something. -/
def IsNumberText (text : List Char) : Prop :=
  IsDecimalText text ∨ IsSpecialText text

variable {text : List Char}

theorem isSome_parseDecimal_iff :
    (parseDecimal text).isSome ↔ IsDecimalText text := by
  constructor
  · intro read
    obtain ⟨value, parsed⟩ := Option.isSome_iff_exists.mp read
    exact exists_render_of_parseDecimal parsed
  · rintro ⟨written, rfl⟩
    rw [written.parseDecimal_render]
    rfl

theorem isSome_parseSpecial_iff :
    (parseSpecial text).isSome ↔ IsSpecialText text := by
  constructor
  · intro read
    obtain ⟨literal, parsed⟩ := Option.isSome_iff_exists.mp read
    exact exists_render_of_parseSpecial parsed
  · rintro ⟨written, rfl⟩
    rw [written.parseSpecial_render]
    rfl

/-- A text that has a special number in it is no decimal number. -/
theorem not_isDecimalText_of_isSpecialText
    (special : IsSpecialText text) :
    ¬ IsDecimalText text := by
  obtain ⟨written, rfl⟩ := special
  rw [← isSome_parseDecimal_iff, written.parseDecimal_render]
  exact Bool.false_ne_true

theorem isSome_parse_iff :
    (parse text).isSome ↔ IsNumberText text := by
  rw [IsNumberText, ← isSome_parseDecimal_iff, ← isSome_parseSpecial_iff, parse]
  cases parseDecimal text <;> simp

end Literal

/-! ## Exactness -/

/-- The digits that are counted are the decimal digits of the number. -/
theorem Decimal.Counted.significant_eq
    {decimal : Decimal}
    (counted : decimal.Counted) :
    decimal.significant = (Nat.digits 10 decimal.digits).length := by
  apply le_antisymm
  · by_cases none : decimal.significant = 0
    · rw [none]
      exact Nat.zero_le _
    · have longer :=
        (Nat.lt_digits_length_iff (by decide) decimal.digits).mpr
          (counted.pow_le none)
      omega
  · exact (Nat.digits_length_le_iff (by decide) decimal.digits).mpr
      counted.lt_pow

namespace WrittenDecimal

variable (written : WrittenDecimal)

/-- The exponent that is read is the written one, brought into bounds. -/
theorem readExponent_eq :
    written.readExponent =
      max (-(2 ^ 32 - 1)) (min written.exponent (2 ^ 32 - 1)) := by
  have bound : (Literal.exponentBound : ℤ) = 2 ^ 32 - 1 := rfl
  have limits := abs_le.mp written.abs_readExponent_le
  rcases written.readExponent_cases with exact | ⟨high, above⟩ | ⟨low, below⟩
    <;> omega

/-- A number whose exponent is in bounds is read exactly. -/
theorem magnitude_decimal
    (short : written.digits.length < 2 ^ 31)
    (inside : |written.exponent| ≤ 2 ^ 32 - 1) :
    (written.decimal.digits : ℚ) * 10 ^ written.decimal.exponent =
      written.magnitude := by
  have limits := abs_le.mp inside
  have kept : written.readExponent = written.exponent := by
    rw [readExponent_eq]
    omega
  rw [written.exponent_decimal short, kept]
  rfl

end WrittenDecimal

end CallFrame
