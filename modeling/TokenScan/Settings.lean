import TokenScan.Decimal.Shortest
import TokenScan.Listing
import TokenScan.Text.Quoted
import TokenScan.Toml.Document

/-! Settings and the configuration document that they are read from. Each field has a default
and is read on its own; keys that no field has are passed over. A section may also be an array
of its fields in order, and the format a table whose one key names it. The first entry of the parsed
table that does not fit is the one reported. -/
namespace TokenScan

structure LogSettings where
  debug : Bool := false
  deriving DecidableEq, Repr

structure DisplaySettings where
  format : Format := .table
  locations : Bool := false
  coloured : Bool := true
  deriving DecidableEq, Repr

structure Settings where
  log : LogSettings := {}
  display : DisplaySettings := {}
  deriving DecidableEq, Repr

namespace Settings

/-- Why a value of the document is no setting. -/
inductive Misfit where
  | notBoolean (found : Toml.Value)
  | notSection (name : String) (found : Toml.Value)
  | unknownFormat (name : String)
  | notFormat
  /-- The table that should name a format is empty, or has several keys. -/
  | noChoice
  | severalChoices
  /-- What stands under the name of the format should be empty, also if it is an array of
  tables. -/
  | notEmpty
  | notEmptyElements
  | notTable (found : Toml.Value)

inductive Error where
  | notDocument
  | misfit (misfit : Misfit)

def described : Toml.Value → String
  | .text value => "string " ++ Text.quoted value
  | .integer value => s!"integer `{value}`"
  | .float value => s!"floating point `{value.text}`"
  | .boolean value => s!"boolean `{value}`"
  | .array _ | .elements _ => "sequence"
  | .moment _ | .table _ => "map"

def typeName : Toml.Value → String
  | .text _ => "string"
  | .integer _ => "integer"
  | .float _ => "float"
  | .boolean _ => "boolean"
  | .moment _ => "datetime"
  | .array _ => "array"
  | .table _ => "table"
  | .elements _ => "array of tables"

def Misfit.message : Misfit → String
  | .notBoolean found => s!"invalid type: {described found}, expected a boolean"
  | .notSection name found => s!"invalid type: {described found}, expected struct {name}"
  | .unknownFormat name =>
    s!"unknown variant `{name}`, expected one of " ++
      ", ".intercalate (Format.all.map fun format => s!"`{format.name}`")
  | .notFormat => "wanted string or table"
  | .noChoice => "wanted exactly 1 element, found 0 elements"
  | .severalChoices => "wanted exactly 1 element, more than 1 element"
  | .notEmpty => "expected empty table"
  | .notEmptyElements => "expected empty array"
  | .notTable found => s!"expected table, found {typeName found}"

def boolean : Toml.Value → Except Misfit Bool
  | .boolean value => .ok value
  | found => .error (.notBoolean found)

def namedFormat (name : String) : Except Misfit Format :=
  match Format.ofName? name with
  | some format => .ok format
  | none => .error (.unknownFormat name)

/-- Nothing may stand under the name of a format. -/
def nothing : Toml.Value → Except Misfit Unit
  | .table [] | .array [] | .elements [] => .ok ()
  | .table _ | .array _ => .error .notEmpty
  | .elements _ => .error .notEmptyElements
  | found => .error (.notTable found)

def format : Toml.Value → Except Misfit Format
  | .text name => namedFormat name
  | .table [] => .error .noChoice
  | .table [(name, value)] => do
    let format ← namedFormat name
    nothing value
    return format
  | .table _ => .error .severalChoices
  | _ => .error .notFormat

/-- Reads a section from its entries, or from an array of its fields in order. A date has no
entry that a section knows. -/
def readSection {α : Type} (name : String) (keys : List String) (default : α)
    (set : α → String × Toml.Value → Except Misfit α) : Toml.Value → Except Misfit α
  | .table entries => entries.foldlM set default
  | .array items => (keys.zip items).foldlM set default
  | .elements tables => (keys.zip (tables.map .table)).foldlM set default
  | .moment _ => .ok default
  | found => .error (.notSection name found)

def setLog (log : LogSettings) : String × Toml.Value → Except Misfit LogSettings
  | ("debug", value) => return { log with debug := ← boolean value }
  | _ => .ok log

def setDisplay (display : DisplaySettings) : String × Toml.Value → Except Misfit DisplaySettings
  | ("format", value) => return { display with format := ← format value }
  | ("locations", value) => return { display with locations := ← boolean value }
  | ("color", value) => return { display with coloured := ← boolean value }
  | _ => .ok display

def set (settings : Settings) : String × Toml.Value → Except Misfit Settings
  | ("log", value) => do
    let log ← readSection "ConfigSectionLog" ["debug"] {} setLog value
    return { settings with log }
  | ("display", value) => do
    let display ← readSection "ConfigSectionDisplay" ["format", "locations", "color"] {}
      setDisplay value
    return { settings with display }
  | _ => .ok settings

def ofTable (table : Toml.Table) : Except Misfit Settings := table.foldlM set {}

def read (document : String) : Except Error Settings :=
  match Toml.read document with
  | none => .error .notDocument
  | some table => (ofTable table).mapError .misfit

end Settings

end TokenScan
