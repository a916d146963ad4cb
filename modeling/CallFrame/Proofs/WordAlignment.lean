import CallFrame.Proofs.Native.Cursor

/-!
# Rounding up on machine words

A machine rounds an offset up by adding a mask and clearing its bits.  On words
the sum may wrap around.  The wrapping does no harm to what is computed: for a
power of two the result is the rounding on natural numbers, taken modulo the
number of words, because the alignment divides that number.

So every law of rounding that is an equation holds on words without a condition.
The laws that compare, which are that the result is the least multiple and that
rounding is monotone, need the sum to stay below the number of words.

Rounding an end behind an aligned start is rounding the size, and this is why a
struct that is put leaves the cursor where the walk over the types expects it.
-/

namespace CallFrame

/-! ## Words as natural numbers -/

/-- Words clear the bits of a mask as natural numbers do. -/
theorem toNat_and_not (value mask : UInt64) :
    (value &&& ~~~mask).toNat = clearBits value.toNat mask.toNat := by
  have same : value &&& ~~~mask = (value ||| mask) ^^^ mask := by
    apply UInt64.toBitVec_inj.mp
    ext index inside
    simp only [UInt64.toBitVec_and, UInt64.toBitVec_not, UInt64.toBitVec_xor,
      UInt64.toBitVec_or, BitVec.getElem_and, BitVec.getElem_not,
      BitVec.getElem_xor, BitVec.getElem_or]
    cases value.toBitVec[index] <;> cases mask.toBitVec[index] <;> rfl
  rw [same, UInt64.toNat_xor, UInt64.toNat_or, clearBits]

/-- A word that is a power of two divides the number of words. -/
theorem dvd_size_of_isPowerOfTwo
    {alignment : UInt64}
    (power : alignment.toNat.isPowerOfTwo) :
    alignment.toNat ∣ 2 ^ 64 :=
  dvd_of_isPowerOfTwo_of_le power ⟨64, rfl⟩ alignment.toNat_lt.le

/-- Dividing upwards commutes with wrapping around at a multiple. -/
theorem mod_div_mul_of_dvd
    {alignment size : Nat}
    (divides : alignment ∣ size)
    (value : Nat) :
    value % size / alignment * alignment =
      value / alignment * alignment % size := by
  obtain ⟨factor, rfl⟩ := divides
  rw [Nat.mod_mul_right_div_self, Nat.mul_comm alignment factor,
    Nat.mul_mod_mul_right]

variable {value alignment : UInt64}

theorem one_le_toNat_of_isPowerOfTwo
    (power : alignment.toNat.isPowerOfTwo) :
    1 ≤ alignment.toNat := by
  obtain ⟨exponent, equal⟩ := power
  rw [equal]
  exact Nat.one_le_two_pow

theorem toNat_sub_one
    (power : alignment.toNat.isPowerOfTwo) :
    (alignment - 1).toNat = alignment.toNat - 1 :=
  UInt64.toNat_sub_of_le _ _
    (UInt64.le_iff_toNat_le.mpr (one_le_toNat_of_isPowerOfTwo power))

/-- The mask of the alignment one is empty, so that no case is needed for it. -/
theorem alignUpWord_eq_and_not
    (power : alignment.toNat.isPowerOfTwo) :
    alignUpWord value alignment =
      (value + (alignment - 1)) &&& ~~~(alignment - 1) := by
  rw [alignUpWord]
  by_cases small : alignment ≤ 1
  · have one : alignment = 1 := by
      apply UInt64.toNat_inj.mp
      exact Nat.le_antisymm (UInt64.le_iff_toNat_le.mp small)
        (one_le_toNat_of_isPowerOfTwo power)
    rw [if_pos small, one]
    simp
  · rw [if_neg small]

/-- Words are rounded up as natural numbers are, and wrap around. -/
theorem toNat_alignUpWord
    (power : alignment.toNat.isPowerOfTwo)
    (value : UInt64) :
    (alignUpWord value alignment).toNat =
      alignUp value.toNat alignment.toNat % 2 ^ 64 := by
  have divides := dvd_size_of_isPowerOfTwo power
  have mask := toNat_sub_one power
  rw [alignUpWord_eq_and_not power, toNat_and_not, UInt64.toNat_add, mask]
  obtain ⟨exponent, equal⟩ := power
  rw [equal] at divides ⊢
  rw [clearBits_two_pow, mod_div_mul_of_dvd divides, alignUp_two_pow]

/-- Below the number of words nothing wraps around. -/
theorem toNat_alignUpWord_of_lt
    (power : alignment.toNat.isPowerOfTwo)
    (room : value.toNat + (alignment.toNat - 1) < 2 ^ 64) :
    (alignUpWord value alignment).toNat =
      alignUp value.toNat alignment.toNat := by
  rw [toNat_alignUpWord power]
  exact Nat.mod_eq_of_lt ((alignUp_le_add power value.toNat).trans_lt room)

/-! ## Laws of rounding words -/

/-- Rounding up and wrapping around may be exchanged. -/
theorem alignUp_mod_of_dvd
    {alignment size : Nat}
    (power : alignment.isPowerOfTwo)
    (divides : alignment ∣ size)
    (value : Nat) :
    alignUp (value % size) alignment % size = alignUp value alignment % size := by
  have wraps : alignment ∣ size * (value / size) :=
    divides.mul_right (value / size)
  conv_rhs => rw [← Nat.div_add_mod value size]
  rw [alignUp_add_of_dvd power wraps, Nat.mul_add_mod]

theorem alignUpWord_mono
    {larger : UInt64}
    (power : alignment.toNat.isPowerOfTwo)
    (room : larger.toNat + (alignment.toNat - 1) < 2 ^ 64)
    (le : value ≤ larger) :
    alignUpWord value alignment ≤ alignUpWord larger alignment := by
  have below : value.toNat ≤ larger.toNat := UInt64.le_iff_toNat_le.mp le
  have valueRoom : value.toNat + (alignment.toNat - 1) < 2 ^ 64 :=
    (Nat.add_le_add_right below _).trans_lt room
  rw [UInt64.le_iff_toNat_le, toNat_alignUpWord_of_lt power valueRoom,
    toNat_alignUpWord_of_lt power room]
  exact alignUp_mono power below

theorem toNat_max (left right : UInt64) :
    (max left right).toNat = max left.toNat right.toNat := by
  show (if left ≤ right then right else left).toNat = _
  by_cases le : left ≤ right
  · rw [if_pos le, max_eq_right (UInt64.le_iff_toNat_le.mp le)]
  · rw [if_neg le, max_eq_left (Nat.le_of_not_le (mt UInt64.le_iff_toNat_le.mpr le))]

/-- Rounding to one alignment and then to another is rounding to the wider one. -/
theorem alignUpWord_alignUpWord
    {other : UInt64}
    (power : alignment.toNat.isPowerOfTwo)
    (otherPower : other.toNat.isPowerOfTwo)
    (value : UInt64) :
    alignUpWord (alignUpWord value alignment) other =
      alignUpWord value (max alignment other) := by
  have widerPower : (max alignment other).toNat.isPowerOfTwo := by
    rw [toNat_max]
    exact isPowerOfTwo_max power otherPower
  apply UInt64.toNat_inj.mp
  rw [toNat_alignUpWord otherPower, toNat_alignUpWord power,
    toNat_alignUpWord widerPower,
    alignUp_mod_of_dvd otherPower (dvd_size_of_isPowerOfTwo otherPower),
    alignUp_alignUp power otherPower, toNat_max]

/-- Behind an aligned start, rounding the end is rounding the size. -/
theorem alignUpWord_add_of_dvd
    {start : UInt64}
    (power : alignment.toNat.isPowerOfTwo)
    (aligned : alignment.toNat ∣ start.toNat)
    (size : UInt64) :
    alignUpWord (start + size) alignment =
      start + alignUpWord size alignment := by
  apply UInt64.toNat_inj.mp
  rw [toNat_alignUpWord power, UInt64.toNat_add, UInt64.toNat_add,
    toNat_alignUpWord power,
    alignUp_mod_of_dvd power (dvd_size_of_isPowerOfTwo power),
    alignUp_add_of_dvd power aligned, Nat.add_mod_mod]

/--
On words, rounding up by a mask yields the least multiple of the alignment that
is not below the value, if the sum with the mask is a word.  It agrees with the
rounding on natural numbers then and is monotone.  It is idempotent, rounding to
two alignments is rounding to the wider one, and rounding the end behind an
aligned start is rounding the size.  So, at every start at a slot, the placement
of a struct ends where the size of the frame counts its end.
-/
theorem alignUpWord_isLeast_and_composes
    (power : alignment.toNat.isPowerOfTwo) :
    (∀ value : UInt64,
        alignUpWord value alignment =
          (value + (alignment - 1)) &&& ~~~(alignment - 1)) ∧
      (∀ value : UInt64, value.toNat + (alignment.toNat - 1) < 2 ^ 64 →
        IsLeast
            {multiple : Nat |
              value.toNat ≤ multiple ∧ alignment.toNat ∣ multiple}
            (alignUpWord value alignment).toNat ∧
          (alignUpWord value alignment).toNat =
            alignUp value.toNat alignment.toNat) ∧
      (∀ value : UInt64,
        alignUpWord (alignUpWord value alignment) alignment =
          alignUpWord value alignment) ∧
      (∀ value larger : UInt64, value ≤ larger →
        larger.toNat + (alignment.toNat - 1) < 2 ^ 64 →
          alignUpWord value alignment ≤ alignUpWord larger alignment) ∧
      (∀ value other : UInt64, other.toNat.isPowerOfTwo →
        alignUpWord (alignUpWord value alignment) other =
          alignUpWord value (max alignment other)) ∧
      (∀ start size : UInt64, alignment.toNat ∣ start.toNat →
        alignUpWord (start + size) alignment =
          start + alignUpWord size alignment) ∧
      (∀ (encoder : Encoder) (offset : Nat) (type : NativeType),
        encoder.isRaw = true →
          encoder.slotSize = alignment.toNat →
            type.kind = .struct →
              encoder.slotSize ∣ encoder.align offset type.alignment →
                encoder.structPlacement? offset type =
                  some ⟨encoder.align offset type.alignment,
                    encoder.offsetAfter offset type⟩) := by
  refine ⟨fun value => alignUpWord_eq_and_not power, ?_, ?_, ?_, ?_, ?_, ?_⟩
  · intro value room
    have exact := toNat_alignUpWord_of_lt power room
    refine ⟨?_, exact⟩
    rw [exact]
    exact isLeast_alignUp power value.toNat
  · intro value
    have same : max alignment alignment = alignment := by
      apply UInt64.toNat_inj.mp
      rw [toNat_max, max_self]
    rw [alignUpWord_alignUpWord power power, same]
  · intro value larger le room
    exact alignUpWord_mono power room le
  · intro value other otherPower
    exact alignUpWord_alignUpWord power otherPower value
  · intro start size aligned
    exact alignUpWord_add_of_dvd power aligned size
  · intro encoder offset type raw slot kind aligned
    rw [← slot] at power
    exact Encoder.structPlacement_of_dvd raw power kind aligned

/-- A word above which there is a single multiple of eight. -/
theorem lastMultiple_isLeast :
    (8 : UInt64).toNat.isPowerOfTwo ∧
      IsLeast {multiple : Nat | 18446744073709551601 ≤ multiple ∧ 8 ∣ multiple}
        18446744073709551608 ∧
      (Encoder.select (.ofFamily .x86_64 .linux) true).structPlacement? 3
          ⟨.struct, 13, 2⟩ =
        some ⟨8, 24⟩ := by
  have power : (8 : UInt64).toNat.isPowerOfTwo := ⟨3, rfl⟩
  obtain ⟨-, least, -, -, -, -, placed⟩ :=
    alignUpWord_isLeast_and_composes power
  refine ⟨power, (least 18446744073709551601 (by decide)).1, ?_⟩
  exact placed (.select (.ofFamily .x86_64 .linux) true) 3 ⟨.struct, 13, 2⟩ rfl rfl
    rfl ⟨1, rfl⟩

end CallFrame
