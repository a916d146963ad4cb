import CallFrame.Proofs.Rounding.Written

/-!
# Reading written decimal numbers

The reader looks for the exponent mark first, then for the point in front of it.
Neither mark is a digit, a sign or the other one, so each is found where it was
written, and the parts of a rendered number come back one by one.

Blanks around the number are trimmed before it is read, and no character of a
rendered number is blank.  A text is therefore read as the number that is
written in it, and for a text of less than `2 ^ 31` bytes that number denotes
the written magnitude.
-/

namespace CallFrame

namespace Literal

/-! ## Marks and signs -/

section Marks

variable {isMark : Char → Bool} {front rest : List Char}

theorem beforeMark_append
    (clean : ∀ character ∈ front, isMark character = false)
    (starts : ∀ character, rest.head? = some character → isMark character = true) :
    beforeMark isMark (front ++ rest) = front := by
  have stops : rest.takeWhile (fun character => !isMark character) = [] := by
    cases rest with
    | nil => rfl
    | cons mark behind => simp [starts mark rfl]
  rw [beforeMark, List.takeWhile_append_of_pos, stops, List.append_nil]
  intro character member
  rw [clean character member]
  rfl

theorem afterMark?_append
    (clean : ∀ character ∈ front, isMark character = false)
    (starts : ∀ character, rest.head? = some character → isMark character = true) :
    afterMark? isMark (front ++ rest) = rest.tail? := by
  have stops : rest.dropWhile (fun character => !isMark character) = rest := by
    cases rest with
    | nil => rfl
    | cons mark behind => simp [starts mark rfl]
  rw [afterMark?, List.dropWhile_append_of_pos, stops]
  intro character member
  rw [clean character member]
  rfl

end Marks

/-- A text that does not start with a sign. -/
def Unsigned (text : List Char) : Prop :=
  ∀ character, text.head? = some character → character ≠ '-' ∧ character ≠ '+'

theorem withoutSign_render
    (sign : WrittenSign)
    {text : List Char}
    (unsigned : Unsigned text) :
    withoutSign (sign.render ++ text) = text := by
  cases sign with
  | absent =>
      cases text with
      | nil => rfl
      | cons first rest =>
          obtain ⟨notMinus, notPlus⟩ := unsigned first rfl
          exact if_neg (not_or.mpr ⟨notMinus, notPlus⟩)
  | plus => rfl
  | minus => rfl

theorem isNegative_render
    (sign : WrittenSign)
    {text : List Char}
    (unsigned : Unsigned text) :
    isNegative (sign.render ++ text) = sign.isNegative := by
  cases sign with
  | absent =>
      cases text with
      | nil => rfl
      | cons first rest =>
          have notMinus := (unsigned first rfl).1
          simpa [isNegative, WrittenSign.render, WrittenSign.isNegative]
            using notMinus
  | plus => rfl
  | minus => rfl

/-! ## Characters of a number -/

/-- The facts about a digit that keep it apart from the marks. -/
theorem digitChar_facts (digit : Fin 10) :
    isExponentMark (Nat.digitChar digit) = false ∧
      isPoint (Nat.digitChar digit) = false ∧
      Nat.digitChar digit ≠ '-' ∧ Nat.digitChar digit ≠ '+' ∧
      isBlank (Nat.digitChar digit) = false := by
  revert digit
  decide

theorem unsigned_renderDigits_append
    {digits : List (Fin 10)}
    {rest : List Char}
    (unsigned : digits = [] → Unsigned rest) :
    Unsigned (renderDigits digits ++ rest) := by
  cases digits with
  | nil => exact unsigned rfl
  | cons digit others =>
      rintro character ⟨⟩
      obtain ⟨-, -, notMinus, notPlus, -⟩ := digitChar_facts digit
      exact ⟨notMinus, notPlus⟩

theorem isDigits_renderDigits
    {digits : List (Fin 10)}
    (nonempty : digits ≠ []) :
    isDigits (renderDigits digits) = true := by
  have all : (renderDigits digits).all Char.isDigit = true :=
    List.all_eq_true.mpr fun character => isDigit_of_mem_renderDigits
  rw [isDigits, all]
  simpa [renderDigits] using nonempty

end Literal

/-! ## Parts of a number -/

namespace WrittenExponent

/-- The exponent that is read, which is cut off at the bound. -/
def readValue (exponent : WrittenExponent) : ℤ :=
  exponent.sign.apply
    (min (numberOfDigits exponent.digits) Literal.exponentBound)

theorem parseExponent_render (exponent : WrittenExponent) :
    Literal.parseExponent
        (exponent.sign.render ++ renderDigits exponent.digits) =
      some exponent.readValue := by
  have unsigned : Literal.Unsigned (renderDigits exponent.digits) := by
    rw [← List.append_nil (renderDigits exponent.digits)]
    apply Literal.unsigned_renderDigits_append
    intro empty
    exact absurd empty exponent.nonempty
  rw [Literal.parseExponent, Literal.withoutSign_render _ unsigned,
    Literal.isDigits_renderDigits exponent.nonempty, if_pos rfl,
    Literal.isNegative_render _ unsigned, exponentMagnitude_renderDigits]
  rfl

end WrittenExponent

namespace WrittenDecimal

variable (written : WrittenDecimal)

def renderMantissa : List Char :=
  renderDigits written.whole ++ written.renderFraction

/-- The exponent that is read. -/
def readExponent : ℤ :=
  (written.exponent?.map WrittenExponent.readValue).getD 0

/-- The decimal number that is read. -/
def decimal : Decimal where
  negative := written.sign.isNegative
  digits := numberOfDigits written.digits
  exponent := saturate (written.readExponent - written.fraction.length)
  significant := (significantDigits written.digits).length

theorem render_eq :
    written.render =
      written.sign.render ++
        (written.renderMantissa ++ written.renderExponent) := rfl

theorem unsigned_mantissa (rest : List Char) :
    Literal.Unsigned (written.renderMantissa ++ rest) := by
  rw [renderMantissa, List.append_assoc]
  apply Literal.unsigned_renderDigits_append
  intro empty
  have nonempty := written.nonempty
  rw [renderFraction]
  cases point : written.fraction? with
  | none =>
      rw [empty, point] at nonempty
      exact absurd rfl nonempty
  | some digits =>
      rintro character ⟨⟩
      decide

theorem isExponentMark_of_mem_mantissa :
    ∀ character ∈ written.renderMantissa,
      Literal.isExponentMark character = false := by
  have digit {digits : List (Fin 10)} :
      ∀ character ∈ renderDigits digits,
        Literal.isExponentMark character = false := by
    intro character member
    obtain ⟨digit, -, rfl⟩ := List.mem_map.mp member
    exact (Literal.digitChar_facts digit).1
  intro character member
  rw [renderMantissa, renderFraction] at member
  rcases List.mem_append.mp member with whole | fraction
  · exact digit character whole
  · cases point : written.fraction? with
    | none =>
        rw [point] at fraction
        cases fraction
    | some digits =>
        rw [point] at fraction
        rcases List.mem_cons.mp fraction with rfl | behind
        · rfl
        · exact digit character behind

theorem isExponentMark_of_head_exponent :
    ∀ character, written.renderExponent.head? = some character →
      Literal.isExponentMark character = true := by
  intro character first
  rw [renderExponent] at first
  cases announced : written.exponent? with
  | none =>
      rw [announced] at first
      cases first
  | some exponent =>
      rw [announced] at first
      cases first
      cases exponent.capital <;> rfl

/-! ## The reader -/

theorem exponentPart_render :
    Literal.exponentPart
        (written.renderMantissa ++ written.renderExponent) =
      some written.readExponent := by
  rw [Literal.exponentPart,
    Literal.afterMark?_append written.isExponentMark_of_mem_mantissa
      written.isExponentMark_of_head_exponent, renderExponent, readExponent]
  cases written.exponent? with
  | none => rfl
  | some exponent => exact exponent.parseExponent_render

theorem isPoint_of_mem_digits
    (digits : List (Fin 10)) :
    ∀ character ∈ renderDigits digits, Literal.isPoint character = false := by
  intro character member
  obtain ⟨digit, -, rfl⟩ := List.mem_map.mp member
  exact (Literal.digitChar_facts digit).2.1

theorem isPoint_of_head_fraction :
    ∀ character, written.renderFraction.head? = some character →
      Literal.isPoint character = true := by
  intro character first
  rw [renderFraction] at first
  cases point : written.fraction? with
  | none =>
      rw [point] at first
      cases first
  | some digits =>
      rw [point] at first
      cases first
      rfl

theorem beforePoint_render :
    Literal.beforeMark Literal.isPoint written.renderMantissa =
      renderDigits written.whole :=
  Literal.beforeMark_append (isPoint_of_mem_digits written.whole)
    written.isPoint_of_head_fraction

theorem afterPoint_render :
    (Literal.afterMark? Literal.isPoint written.renderMantissa).getD [] =
      renderDigits written.fraction := by
  rw [renderMantissa,
    Literal.afterMark?_append (isPoint_of_mem_digits written.whole)
      written.isPoint_of_head_fraction, renderFraction, fraction]
  cases written.fraction? <;> rfl

/-- A rendered number is read back. -/
theorem parseDecimal_render :
    Literal.parseDecimal written.render = some written.decimal := by
  have unsigned := written.unsigned_mantissa written.renderExponent
  have mantissa :
      Literal.beforeMark Literal.isExponentMark
          (written.renderMantissa ++ written.renderExponent) =
        written.renderMantissa :=
    Literal.beforeMark_append written.isExponentMark_of_mem_mantissa
      written.isExponentMark_of_head_exponent
  have digits :
      renderDigits written.whole ++ renderDigits written.fraction =
        renderDigits written.digits :=
    List.map_append.symm
  have present : Literal.isDigits (renderDigits written.digits) = true :=
    Literal.isDigits_renderDigits written.nonempty
  rw [Literal.parseDecimal, render_eq,
    Literal.withoutSign_render written.sign unsigned, mantissa,
    exponentPart_render, Literal.isNegative_render written.sign unsigned,
    beforePoint_render, afterPoint_render, digits]
  dsimp only
  rw [present, if_pos rfl, length_renderDigits, digitsValue_renderDigits,
    dropWhile_renderDigits, length_renderDigits]
  rfl

/-! ## What is read -/

theorem counted_decimal
    (short : written.digits.length < 2 ^ 31) :
    written.decimal.Counted where
  pow_le nonzero := pow_le_numberOfDigits nonzero
  lt_pow := by
    show numberOfDigits written.digits <
      10 ^ (significantDigits written.digits).length
    rw [← numberOfDigits_significantDigits]
    exact numberOfDigits_lt _
  short := (List.length_dropWhile_le _ _).trans_lt short

theorem length_fraction_le :
    written.fraction.length ≤ written.digits.length := by
  rw [digits, List.length_append]
  exact Nat.le_add_left _ _

theorem abs_readExponent_le :
    |written.readExponent| ≤ Literal.exponentBound := by
  rw [readExponent]
  cases written.exponent? with
  | none => exact abs_zero.trans_le (Int.natCast_nonneg _)
  | some power =>
      rw [Option.map_some, Option.getD_some, WrittenExponent.readValue,
        WrittenSign.apply, abs_le]
      cases power.sign.isNegative with
      | true =>
          rw [if_pos rfl]
          omega
      | false =>
          rw [if_neg Bool.false_ne_true]
          omega

/-- The exponent that is read is the written one, or both are out of bounds. -/
theorem readExponent_cases :
    written.readExponent = written.exponent ∨
      written.readExponent = Literal.exponentBound ∧
        written.readExponent < written.exponent ∨
      written.readExponent = -Literal.exponentBound ∧
        written.exponent < written.readExponent := by
  rw [readExponent, exponent]
  cases written.exponent? with
  | none => exact Or.inl rfl
  | some power =>
      rw [Option.map_some, Option.map_some, Option.getD_some, Option.getD_some,
        WrittenExponent.readValue, WrittenExponent.value, WrittenSign.apply,
        WrittenSign.apply]
      cases power.sign.isNegative with
      | true =>
          rw [if_pos rfl, if_pos rfl]
          omega
      | false =>
          rw [if_neg Bool.false_ne_true, if_neg Bool.false_ne_true]
          omega

/-- The exponent of the number that is read, for which no saturation is needed. -/
theorem exponent_decimal
    (short : written.digits.length < 2 ^ 31) :
    written.decimal.exponent =
      written.readExponent - written.fraction.length := by
  have fraction := written.length_fraction_le
  have bound : (Literal.exponentBound : ℤ) = 4294967295 := rfl
  have limits := abs_le.mp written.abs_readExponent_le
  show saturate (written.readExponent - written.fraction.length) = _
  rw [Decimal.saturate_eq]
  omega

/-- The number that is read denotes the written magnitude. -/
theorem denotes_decimal
    (short : written.digits.length < 2 ^ 31) :
    written.decimal.Denotes written.magnitude := by
  have fraction := written.length_fraction_le
  have significant : written.decimal.significant < 2 ^ 31 :=
    (written.counted_decimal short).short
  have bound : (Literal.exponentBound : ℤ) = 4294967295 := rfl
  refine ⟨written.exponent - written.fraction.length, rfl, ?_⟩
  rw [written.exponent_decimal short, Decimal.overflowDigits,
    Decimal.underflowDigits]
  rcases written.readExponent_cases with exact | ⟨high, above⟩ | ⟨low, below⟩
  · left
    rw [exact]
  · right
    left
    omega
  · right
    right
    omega

/-! ## Blanks around a number -/

theorem isBlank_of_mem_renderDigits
    {digits : List (Fin 10)} :
    ∀ character ∈ renderDigits digits, isBlank character = false := by
  intro character member
  obtain ⟨digit, -, rfl⟩ := List.mem_map.mp member
  exact (Literal.digitChar_facts digit).2.2.2.2

theorem isBlank_of_mem_sign (sign : WrittenSign) :
    ∀ character ∈ sign.render, isBlank character = false := by
  cases sign with
  | absent => exact List.forall_mem_nil _
  | plus => exact List.forall_mem_singleton.mpr rfl
  | minus => exact List.forall_mem_singleton.mpr rfl

/-- No character of a number is blank. -/
theorem isBlank_of_mem_render :
    ∀ character ∈ written.render, isBlank character = false := by
  intro character member
  rw [render] at member
  rcases List.mem_append.mp member with sign | unsigned
  · exact isBlank_of_mem_sign written.sign character sign
  · rcases List.mem_append.mp unsigned with mantissa | exponent
    · rcases List.mem_append.mp mantissa with whole | fraction
      · exact isBlank_of_mem_renderDigits character whole
      · rw [renderFraction] at fraction
        cases point : written.fraction? with
        | none =>
            rw [point] at fraction
            cases fraction
        | some digits =>
            rw [point] at fraction
            rcases List.mem_cons.mp fraction with rfl | behind
            · decide
            · exact isBlank_of_mem_renderDigits character behind
    · rw [renderExponent] at exponent
      cases announced : written.exponent? with
      | none =>
          rw [announced] at exponent
          cases exponent
      | some power =>
          rw [announced] at exponent
          rcases List.mem_cons.mp exponent with rfl | behind
          · cases power.capital <;> decide
          · rcases List.mem_append.mp behind with sign | digits
            · exact isBlank_of_mem_sign power.sign character sign
            · exact isBlank_of_mem_renderDigits character digits

theorem length_digits_le_render :
    written.digits.length ≤ written.render.length := by
  rw [render, digits, fraction, renderFraction]
  cases written.fraction? <;> simp [renderDigits] <;> omega

theorem render_ne_nil : written.render ≠ [] := by
  intro empty
  have length := written.length_digits_le_render
  rw [empty, List.length_nil, Nat.le_zero] at length
  exact written.nonempty (List.eq_nil_of_length_eq_zero length)

end WrittenDecimal

theorem dropWhile_isBlank_append
    {front body rest : List Char}
    (blank : ∀ character ∈ front, isBlank character = true)
    (clean : ∀ character ∈ body, isBlank character = false)
    (nonempty : body ≠ []) :
    (front ++ (body ++ rest)).dropWhile isBlank = body ++ rest := by
  rw [List.dropWhile_append_of_pos blank]
  cases body with
  | nil => exact absurd rfl nonempty
  | cons first others =>
      have visible : isBlank first = false :=
        clean first List.mem_cons_self
      rw [List.cons_append, List.dropWhile_cons_of_neg (by simp [visible])]

/-- Trimming takes away the blanks around a text and nothing else. -/
theorem trimBlanks_append
    {front body back : List Char}
    (blankFront : ∀ character ∈ front, isBlank character = true)
    (blankBack : ∀ character ∈ back, isBlank character = true)
    (clean : ∀ character ∈ body, isBlank character = false)
    (nonempty : body ≠ []) :
    trimBlanks (front ++ body ++ back) = body := by
  have backward :
      (back.reverse ++ (body.reverse ++ [])).dropWhile isBlank =
        body.reverse ++ [] := by
    apply dropWhile_isBlank_append
    · simpa using blankBack
    · simpa using clean
    · simpa using nonempty
  rw [List.append_nil] at backward
  rw [trimBlanks, List.append_assoc,
    dropWhile_isBlank_append blankFront clean nonempty, List.reverse_append,
    backward, List.reverse_reverse]

theorem length_le_utf8ByteSize (characters : List Char) :
    characters.length ≤ (String.ofList characters).utf8ByteSize := by
  induction characters with
  | nil => exact Nat.zero_le _
  | cons first rest induction =>
      have width := Char.utf8Size_pos first
      rw [String.ofList_cons, String.utf8ByteSize_append,
        String.utf8ByteSize_singleton, List.length_cons]
      omega

theorem utf8ByteSize_le (characters : List Char) :
    (String.ofList characters).utf8ByteSize ≤ 4 * characters.length := by
  induction characters with
  | nil => exact Nat.le_refl _
  | cons first rest induction =>
      have width := Char.utf8Size_le_four first
      rw [String.ofList_cons, String.utf8ByteSize_append,
        String.utf8ByteSize_singleton, List.length_cons]
      omega

/-- A number that is written somewhere in a short text has few digits. -/
theorem WrittenDecimal.length_digits_lt
    {written : WrittenDecimal}
    {text : String}
    {bound : ℕ}
    (inside : written.render <:+: text.toList)
    (short : text.utf8ByteSize < bound) :
    written.digits.length < bound := by
  have bytes := length_le_utf8ByteSize text.toList
  rw [String.ofList_toList] at bytes
  calc
    written.digits.length
      ≤ written.render.length := written.length_digits_le_render
    _ ≤ text.toList.length := inside.length_le
    _ ≤ text.utf8ByteSize := bytes
    _ < bound := short

/-! ## Text -/

/-- A text in which a number is written, with blanks around it. -/
structure WrittenText where
  front : List Char
  number : WrittenDecimal
  back : List Char
  blank_front : ∀ character ∈ front, isBlank character = true
  blank_back : ∀ character ∈ back, isBlank character = true

namespace WrittenText

variable (text : WrittenText)

def content : String :=
  String.ofList (text.front ++ text.number.render ++ text.back)

theorem parse_content :
    Literal.parse (trimBlanks text.content.toList) =
      some (.decimal text.number.decimal) := by
  rw [content, String.toList_ofList,
    trimBlanks_append text.blank_front text.blank_back
      text.number.isBlank_of_mem_render text.number.render_ne_nil,
    Literal.parse, text.number.parseDecimal_render]

/-- A short text has few digits. -/
theorem length_digits_lt
    {bound : ℕ}
    (short : text.content.utf8ByteSize < bound) :
    text.number.digits.length < bound := by
  apply WrittenDecimal.length_digits_lt _ short
  rw [content, String.toList_ofList]
  exact ⟨text.front, text.back, rfl⟩

/-- The number in a short text is rounded correctly. -/
theorem round_correct
    {shape : Shape}
    (short : text.content.utf8ByteSize < 2 ^ 31)
    (supported : shape.Supported) :
    (text.number.decimal.round shape).Correct shape text.number.magnitude := by
  have few := text.length_digits_lt short
  exact Decimal.round_correct (text.number.counted_decimal few)
    (text.number.denotes_decimal few) supported

end WrittenText

end CallFrame
