/-!
# Alignment of offsets

Every offset of an argument frame is rounded up to a power of two before a
value is placed at it.  This module supplies that rounding in two readings:
on unbounded natural numbers, which is what frame sizes and cursors are, and
on 64-bit words, which is how a machine computes it.

Both readings clear the low bits of `value + (alignment - 1)`.  For a power of
two that is the least multiple of the alignment which is not below the value;
an alignment of zero or one leaves the value alone.
-/

namespace CallFrame

/-- Clear in a number every bit that is set in the mask. -/
def clearBits (value mask : Nat) : Nat :=
  (value ||| mask) ^^^ mask

/-- Round an offset up to the next multiple of an alignment. -/
def alignUp (value alignment : Nat) : Nat :=
  if alignment ≤ 1 then value
  else clearBits (value + (alignment - 1)) (alignment - 1)

/-- Round a 64-bit word up to the next multiple of an alignment. -/
def alignUpWord (value alignment : UInt64) : UInt64 :=
  if alignment ≤ 1 then value
  else (value + (alignment - 1)) &&& ~~~(alignment - 1)

@[simp]
theorem alignUp_zero_right (value : Nat) : alignUp value 0 = value := by
  simp [alignUp]

@[simp]
theorem alignUp_one_right (value : Nat) : alignUp value 1 = value := by
  simp [alignUp]

end CallFrame
