import TokenScan.Arguments.Request

/-! Values given on the command line. A slot is checked when the next one is given or when the
arguments end, not when it is read. -/
namespace TokenScan.Arguments

/-- Slots with what was given for them; a flag comes with the empty text. -/
abbrev Values := List (Slot × String)

namespace Values

def has (values : Values) (slot : Slot) : Bool := values.any fun entry => entry.1 == slot

def get? (values : Values) (slot : Slot) : Option String := values.lookup slot

/-- No slot is filled twice, no path is empty, and a format has a known name. -/
def add (values : Values) (slot : Slot) (text : String) : Except UsageFault Values :=
  if values.has slot then .error (.repeated slot)
  else if (slot = .config ∨ slot = .file) ∧ text = "" then .error .emptyPath
  else if slot = .format ∧ Format.ofName? text = none then .error (.unknownFormat text)
  else .ok (values ++ [(slot, text)])

end Values

/-- What one level was given so far: what has been checked, and the last slot, which has not. -/
structure Given where
  checked : Values
  /-- The text is still missing if it is to follow as an argument of its own. -/
  last : Option (Slot × Option String)

namespace Given

def start : Given := ⟨[], none⟩

def waiting (given : Given) : Bool :=
  match given.last with
  | some (_, none) => true
  | _ => false

def settle (given : Given) : Except UsageFault Values :=
  match given.last with
  | none => .ok given.checked
  | some (_, none) => .error .missingValue
  | some (slot, some text) => given.checked.add slot text

def has (given : Given) (slot : Slot) : Bool :=
  given.checked.has slot || given.last.any fun entry => entry.1 == slot

end Given

end TokenScan.Arguments
