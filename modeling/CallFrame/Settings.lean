import CallFrame.Text.Blank

/-!
# Settings

Two switches decide how frames are packed: whether arguments take the native
stack layout, and whether every put is checked against the signature.  Both
are off unless a variable turns them on.

A switch is written as one of a few words, in any case and with blanks around
it; an empty value means off.  The first variable that holds anything else is
reported, and then nothing is read.
-/

namespace CallFrame

/-- The switches that packing depends on. -/
structure Settings where
  /-- Whether arguments are packed to the native stack layout. -/
  rawPacking : Bool
  /-- Whether every put is checked against the signature. -/
  validation : Bool
deriving DecidableEq, Repr

/-- The causes for which a variable is refused. -/
inductive SettingsError where
  /-- A variable holds a word that is no switch. -/
  | invalidSwitch (variableName value : String)
deriving DecidableEq, Repr

/-- The sentence that describes a refused variable. -/
def SettingsError.message : SettingsError → String
  | invalidSwitch variableName value =>
    variableName ++ " has invalid value '" ++ value ++ "'"

/-- The position of a switch that a word names. -/
def switchOfWord? (word : String) : Option Bool :=
  if word ∈ ["1", "true", "yes", "on"] then some true
  else if word ∈ ["0", "false", "no", "off", ""] then some false
  else none

/-- The value of a variable as it is compared: trimmed and in lower case. -/
def switchWord (value : String) : String :=
  (trimText value).map Char.toLower

/-- Read a switch from the value of a variable. -/
def readSwitch (variableName value : String) : Except SettingsError Bool :=
  match switchOfWord? (switchWord value) with
  | some position => .ok position
  | none => .error (.invalidSwitch variableName (switchWord value))

namespace Settings

/-- Slots of one width, and no put is checked. -/
def standard : Settings :=
  ⟨false, false⟩

/-- The native stack layout, and no put is checked. -/
def raw : Settings :=
  ⟨true, false⟩

/-- Slots of one width, and every put is checked. -/
def strict : Settings :=
  ⟨false, true⟩

/-- The variable that selects the native stack layout. -/
def rawPackingVariable : String :=
  "CALLPACK_RAW_PACKING"

/-- The variable that turns the checking of puts on. -/
def validationVariable : String :=
  "CALLPACK_VALIDATE"

/-- Read a switch through a lookup; a variable that is not set leaves it off. -/
def readVariable
    (lookup : String → Option String)
    (variableName : String) :
    Except SettingsError Bool :=
  match lookup variableName with
  | some value => readSwitch variableName value
  | none => .ok false

/-- Read the settings through a lookup of variables. -/
def ofLookup
    (lookup : String → Option String) :
    Except SettingsError Settings := do
  let rawPacking ← readVariable lookup rawPackingVariable
  let validation ← readVariable lookup validationVariable
  return ⟨rawPacking, validation⟩

/-- Without any variable the settings are the standard ones. -/
theorem ofLookup_none : ofLookup (fun _ => none) = .ok standard := rfl

/-- The settings of a process; if its variables are refused, the standard ones. -/
def ofVariables (lookup : String → Option String) : Settings :=
  match ofLookup lookup with
  | .ok settings => settings
  | .error _ => standard

end Settings

end CallFrame
