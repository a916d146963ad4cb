import CallFrame.Action

/-!
# Windows of a byte buffer

A buffer is the list of its bytes.  Reading takes a window out of it and
writing replaces one, and both refuse a window that is not wholly inside
before anything else happens.

The laws say what a write does to the window it covers, to the bytes beside
it and to the length of the buffer.
-/

namespace CallFrame

/-- Replace the bytes from an offset on by the given ones. -/
def overwrite
    (buffer : List UInt8)
    (offset : Nat)
    (source : List UInt8) :
    List UInt8 :=
  buffer.take offset ++ source ++ buffer.drop (offset + source.length)

/-- The bytes of a buffer in a window. -/
def window (buffer : List UInt8) (offset length : Nat) : List UInt8 :=
  (buffer.drop offset).take length

/-- Write bytes at an offset, provided that all of them fit. -/
def writeAt
    (offset : Nat)
    (source : List UInt8) :
    Action (List UInt8) Unit := do
  let buffer ← get
  Action.require (offset + source.length ≤ buffer.length) .outOfBounds
  set (overwrite buffer offset source)

/-- Act on a window of a buffer as if it were a buffer of its own. -/
def onWindow
    {Result : Type}
    (offset length : Nat)
    (action : Action (List UInt8) Result) :
    Action (List UInt8) Result :=
  Action.onPart (fun buffer => window buffer offset length)
    (fun changed buffer => overwrite buffer offset changed) action

/-- Read a window of a buffer, provided that all of it is there. -/
def readAt
    (buffer : List UInt8)
    (offset length : Nat) :
    Except Error (List UInt8) :=
  if offset + length ≤ buffer.length then
    .ok (window buffer offset length)
  else
    .error .outOfBounds

/-- A write that fits replaces the bytes from its offset on. -/
theorem writeAt_of_fits
    {buffer source : List UInt8}
    {offset : Nat}
    (fits : offset + source.length ≤ buffer.length) :
    writeAt offset source buffer = .ok () (overwrite buffer offset source) := by
  have passed := Action.require_of fits .outOfBounds buffer
  show (Action.require _ _ >>= fun _ => set (overwrite buffer offset source))
    buffer = _
  rw [Action.bind_of_ok passed]
  rfl

/-- A write that does not fit fails and changes nothing. -/
theorem writeAt_of_not_fits
    {buffer source : List UInt8}
    {offset : Nat}
    (outside : ¬ offset + source.length ≤ buffer.length) :
    writeAt offset source buffer = .error .outOfBounds buffer := by
  have refused := Action.require_of_not outside .outOfBounds buffer
  show (Action.require _ _ >>= fun _ => set (overwrite buffer offset source))
    buffer = _
  rw [Action.bind_of_error refused]

theorem length_overwrite
    {buffer source : List UInt8}
    {offset : Nat}
    (fits : offset + source.length ≤ buffer.length) :
    (overwrite buffer offset source).length = buffer.length := by
  simp only [overwrite, List.length_append, List.length_take, List.length_drop]
  omega

theorem length_window
    {buffer : List UInt8}
    {offset length : Nat}
    (fits : offset + length ≤ buffer.length) :
    (window buffer offset length).length = length := by
  simp only [window, List.length_take, List.length_drop]
  omega

/-- The window that was written holds what was written. -/
theorem window_overwrite_self
    {buffer source : List UInt8}
    {offset : Nat}
    (fits : offset + source.length ≤ buffer.length) :
    window (overwrite buffer offset source) offset source.length = source := by
  have start : (buffer.take offset).length = offset := by
    simp only [List.length_take]
    omega
  rw [window, overwrite, List.append_assoc, List.drop_append, start,
    List.drop_eq_nil_of_le (Nat.le_of_eq start), Nat.sub_self]
  simp

/-- A byte outside the written window stays as it was. -/
theorem getElem?_overwrite_of_outside
    {buffer source : List UInt8}
    {offset : Nat}
    (fits : offset + source.length ≤ buffer.length)
    {index : Nat}
    (outside : index < offset ∨ offset + source.length ≤ index) :
    (overwrite buffer offset source)[index]? = buffer[index]? := by
  simp only [overwrite, List.getElem?_append, List.length_append,
    List.length_take, List.getElem?_take, List.getElem?_drop]
  rcases outside with before | after
  · have inPrefix : index < min offset buffer.length := by omega
    simp [before, inPrefix, Nat.lt_of_lt_of_le inPrefix (Nat.le_add_right _ _)]
  · have notInFront :
        ¬ index < min offset buffer.length + source.length := by omega
    rw [if_neg notInFront]
    congr 1
    omega

end CallFrame
