import CallFrame.Action
import CallFrame.Payload

/-!
# The table of payloads

The slot of an argument that is passed by address stays zero, and the argument
is registered in a table together with the index of its parameter, the window
of its data that the callee sees, and how the data is handled.  Whoever makes
the call walks over the table in order, fills in the addresses and copies
results back.
-/

namespace CallFrame

/-- How a payload is handled, one bit each; bits without a meaning are kept. -/
structure ParameterFlags where
  /-- The bits of the flags. -/
  bits : UInt32
deriving DecidableEq, Repr

namespace ParameterFlags

/-- No flag. -/
def empty : ParameterFlags :=
  ⟨0⟩

/-- The callee reads the data. -/
def input : ParameterFlags :=
  ⟨1⟩

/-- The callee writes the data. -/
def output : ParameterFlags :=
  ⟨2⟩

/-- The data is passed in place. -/
def pinned : ParameterFlags :=
  ⟨4⟩

/-- The copied data is followed by a zero byte. -/
def nulTerminate : ParameterFlags :=
  ⟨8⟩

/-- The flags of two sets together. -/
def union (left right : ParameterFlags) : ParameterFlags :=
  ⟨left.bits ||| right.bits⟩

/-- Whether all bits of some flags are set. -/
def contains (flags other : ParameterFlags) : Bool :=
  flags.bits &&& other.bits == other.bits

/-- Whether data flows both ways. -/
def isInOut (flags : ParameterFlags) : Bool :=
  flags.contains (input.union output)

end ParameterFlags

/-- One argument that is passed by address. -/
structure Entry where
  /-- The index of the parameter whose slot takes the address. -/
  index : Nat
  /-- The source of the data. -/
  payload : Payload
  /-- The first element of the source that the callee sees. -/
  offset : Nat
  /-- The number of elements that the callee sees. -/
  length : Nat
  /-- How the data is handled. -/
  flags : ParameterFlags
deriving DecidableEq, Repr

namespace Entry

/-- The kind of the payload of an entry. -/
def kind (entry : Entry) : PayloadKind :=
  entry.payload.kind

end Entry

/-- The arguments of one call that are passed by address, in put order. -/
structure PayloadTable where
  /-- The entries, first the one that was put first. -/
  entries : List Entry
deriving DecidableEq, Repr

namespace PayloadTable

/-- The table without entries. -/
def empty : PayloadTable :=
  ⟨[]⟩

/-- The number of entries. -/
def length (table : PayloadTable) : Nat :=
  table.entries.length

/-- Whether there is no entry. -/
def isEmpty (table : PayloadTable) : Bool :=
  table.entries.isEmpty

/-- Append an entry, whose window must be inside its source. -/
def push (entry : Entry) : Action PayloadTable Unit := do
  Action.require (entry.payload.covers entry.offset entry.length) .outOfBounds
  modify fun table => ⟨table.entries ++ [entry]⟩

/-- The first entry for a parameter, if there is one. -/
def entryFor? (table : PayloadTable) (index : Nat) : Option Entry :=
  table.entries.find? (·.index == index)

end PayloadTable

end CallFrame
