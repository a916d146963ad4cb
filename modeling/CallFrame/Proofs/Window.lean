import CallFrame.Bytes

/-!
# More laws of windows

A frame is filled by writing one window after the other.  The laws of this
module say how such writes combine: two windows that touch are written as one,
a window beside the written one stays as it was, and a window that is put back
where it was taken changes nothing.

Most of them are proved byte by byte, from what a window and a write say about
the byte at an index.
-/

namespace CallFrame

@[simp]
theorem overwrite_nil (buffer : List UInt8) (offset : Nat) :
    overwrite buffer offset [] = buffer := by
  simp [overwrite]

/-- Two writes, the second one right behind the first, are one write. -/
theorem overwrite_overwrite_behind
    {buffer first second : List UInt8}
    {offset : Nat}
    (fits : offset + first.length ≤ buffer.length) :
    overwrite (overwrite buffer offset first) (offset + first.length) second =
      overwrite buffer offset (first ++ second) := by
  have front :
      (buffer.take offset ++ first).length = offset + first.length := by
    simp only [List.length_append, List.length_take]
    omega
  have kept :
      (overwrite buffer offset first).take (offset + first.length) =
        buffer.take offset ++ first := by
    rw [overwrite, ← front, List.take_left]
  have rest :
      (overwrite buffer offset first).drop
          (offset + first.length + second.length) =
        buffer.drop (offset + first.length + second.length) := by
    rw [overwrite, ← List.drop_drop, ← front, List.drop_left, front,
      List.drop_drop]
  rw [overwrite, kept, rest, overwrite, List.length_append,
    List.append_assoc (buffer.take offset), Nat.add_assoc]

/-- A write at the start of zeros leaves zeros behind it. -/
theorem overwrite_replicate
    (size : Nat)
    (source : List UInt8) :
    overwrite (List.replicate size (0 : UInt8)) 0 source =
      source ++ List.replicate (size - source.length) 0 := by
  simp [overwrite]

/-- A window that is put back where it was taken changes nothing. -/
theorem overwrite_window
    (buffer : List UInt8)
    (offset length : Nat) :
    overwrite buffer offset (window buffer offset length) = buffer := by
  have rest :
      buffer.drop (offset + ((buffer.drop offset).take length).length) =
        (buffer.drop offset).drop length := by
    rw [List.drop_drop, List.length_take, List.length_drop]
    rcases Nat.le_total (offset + length) buffer.length with inside | past
    · rw [Nat.min_eq_left (by omega)]
    · rw [List.drop_eq_nil_of_le past, List.drop_eq_nil_of_le (by omega)]
  rw [overwrite, window, rest, List.append_assoc, List.take_append_drop,
    List.take_append_drop]

/-! ## Byte by byte -/

theorem getElem?_window
    {buffer : List UInt8}
    {offset length index : Nat}
    (inside : index < length) :
    (window buffer offset length)[index]? = buffer[offset + index]? := by
  rw [window, List.getElem?_take_of_lt inside, List.getElem?_drop]

/-- Windows of one length are equal if they agree at every index. -/
theorem window_congr
    {left right : List UInt8}
    {leftOffset rightOffset length : Nat}
    (agree :
      ∀ index < length,
        left[leftOffset + index]? = right[rightOffset + index]?) :
    window left leftOffset length = window right rightOffset length := by
  apply List.ext_getElem?
  intro index
  by_cases inside : index < length
  · rw [getElem?_window inside, getElem?_window inside, agree index inside]
  · rw [window, window, List.getElem?_take, List.getElem?_take,
      if_neg inside, if_neg inside]

/-- A window beside the written one stays as it was. -/
theorem window_overwrite_of_disjoint
    {buffer source : List UInt8}
    {offset other length : Nat}
    (fits : offset + source.length ≤ buffer.length)
    (disjoint :
      other + length ≤ offset ∨ offset + source.length ≤ other) :
    window (overwrite buffer offset source) other length =
      window buffer other length := by
  apply window_congr
  intro index inside
  apply getElem?_overwrite_of_outside fits
  omega

/-- A window in which every byte is zero is made of zeros. -/
theorem window_eq_replicate
    {buffer : List UInt8}
    {offset length : Nat}
    (zeros : ∀ index < length, buffer[offset + index]? = some 0) :
    window buffer offset length = List.replicate length 0 := by
  have whole :
      window (List.replicate length (0 : UInt8)) 0 length =
        List.replicate length 0 := by
    simp [window]
  rw [← whole]
  apply window_congr
  intro index inside
  rw [zeros index inside, Nat.zero_add,
    List.getElem?_replicate_of_lt inside]

end CallFrame
