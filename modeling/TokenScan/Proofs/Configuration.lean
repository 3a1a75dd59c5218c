import TokenScan.Proofs.Keys
import TokenScan.Proofs.Misfits

/-! Settings are read field by field. A document whose known entries all fit gives each field its
value there or else its default, whatever other keys and sections it has and in whatever order. Of a
document that does not fit, the first entry of its table that is no setting is the one reported; the
table has each section where the document opens it, with all that later lines add to it. -/
namespace TokenScan.Settings

open Toml (Value Table Distinct)

/-- What a field is read from, or else its default. -/
def orDefault {α : Type} (read : Value → Except Misfit α) (default : α) :
    Option Value → Except Misfit α
  | none => .ok default
  | some value => read value

@[simp] theorem orDefault_none {α : Type} {read : Value → Except Misfit α} {default : α} :
    orDefault read default none = .ok default := rfl

@[simp] theorem orDefault_some {α : Type} {read : Value → Except Misfit α} {default : α}
    {value : Value} : orDefault read default (some value) = read value := rfl

/-- A field is read, and then what is behind it. -/
theorem map_bind_eq_ok_iff {α β ε : Type} {put : α → β} {found : Except ε α} {rest : β → Except ε β}
    {after : β} : put <$> found >>= rest = .ok after ↔
      ∃ value, found = .ok value ∧ rest (put value) = .ok after := by
  cases found <;> simp [Functor.map, Except.map, bind, Except.bind]

theorem foldlM_setLog {entries : Table} {log after : LogSettings} (distinct : Distinct entries) :
    entries.foldlM setLog log = .ok after ↔
      orDefault boolean log.debug (entries.lookup "debug") = .ok after.debug := by
  induction entries generalizing log with
  | nil =>
    cases log; cases after
    simp [pure, Except.pure]
  | cons entry entries ih =>
    obtain ⟨key, value⟩ := entry
    obtain ⟨fresh, rest⟩ := distinct.of_cons
    rw [List.foldlM_cons]
    by_cases debug : key = "debug"
    · subst debug
      rw [setLog_debug, map_bind_eq_ok_iff]
      simp [ih rest, fresh]
    · rw [setLog_other debug, Toml.lookup_cons_of_ne debug]
      exact ih rest

theorem foldlM_setDisplay {entries : Table} {display after : DisplaySettings}
    (distinct : Distinct entries) :
    entries.foldlM setDisplay display = .ok after ↔
      orDefault format display.format (entries.lookup "format") = .ok after.format ∧
      orDefault boolean display.locations (entries.lookup "locations") = .ok after.locations ∧
      orDefault boolean display.coloured (entries.lookup "color") = .ok after.coloured := by
  induction entries generalizing display with
  | nil =>
    cases display; cases after
    simp [pure, Except.pure]
  | cons entry entries ih =>
    obtain ⟨key, value⟩ := entry
    obtain ⟨fresh, rest⟩ := distinct.of_cons
    rw [List.foldlM_cons]
    by_cases isFormat : key = "format"
    · subst isFormat
      rw [setDisplay_format, map_bind_eq_ok_iff]
      cases read : format value <;> simp [ih rest, List.lookup_cons, fresh, read]
    by_cases isLocations : key = "locations"
    · subst isLocations
      rw [setDisplay_locations, map_bind_eq_ok_iff]
      cases read : boolean value <;> simp [ih rest, List.lookup_cons, fresh, read]
    by_cases isColor : key = "color"
    · subst isColor
      rw [setDisplay_color, map_bind_eq_ok_iff]
      cases read : boolean value <;> simp [ih rest, List.lookup_cons, fresh, read]
    rw [setDisplay_other isFormat isLocations isColor, Toml.lookup_cons_of_ne isFormat,
      Toml.lookup_cons_of_ne isLocations, Toml.lookup_cons_of_ne isColor]
    exact ih rest

/-- The value at the path, if the section is there and is a table. -/
def valueAt (table : Table) (name key : String) : Option Value :=
  match table.lookup name with
  | some (.table entries) => entries.lookup key
  | _ => none

/-- Absent, or a table. -/
inductive Sectional : Option Value → Prop where
  | absent : Sectional none
  | table (entries : Table) : Sectional (some (.table entries))

structure Sectioned (table : Table) : Prop where
  log : Sectional (table.lookup "log")
  display : Sectional (table.lookup "display")

structure SameFields (table other : Table) : Prop where
  debug : valueAt other "log" "debug" = valueAt table "log" "debug"
  format : valueAt other "display" "format" = valueAt table "display" "format"
  locations : valueAt other "display" "locations" = valueAt table "display" "locations"
  coloured : valueAt other "display" "color" = valueAt table "display" "color"

/-- A field that is on or off: its value, or its default if there is none. -/
inductive Switch (default : Bool) : Option Value → Bool → Prop where
  | absent : Switch default none default
  | given (on : Bool) : Switch default (some (.boolean on)) on

/-- A format is named by a text, or by the only key of a table that has nothing under it. -/
inductive Choice : Option Value → Format → Prop where
  | absent : Choice none .table
  | named (format : Format) : Choice (some (.text format.name)) format
  | keyed (format : Format) : Choice (some (.table [(format.name, .table [])])) format

/-- The settings have each field as the document gives it, or else its default. -/
structure Fits (table : Table) (settings : Settings) : Prop where
  sectioned : Sectioned table
  debug : Switch false (valueAt table "log" "debug") settings.log.debug
  format : Choice (valueAt table "display" "format") settings.display.format
  locations : Switch false (valueAt table "display" "locations") settings.display.locations
  coloured : Switch true (valueAt table "display" "color") settings.display.coloured

/-- Some section or field has a value of a wrong kind, or the format a name that none has. -/
inductive Misfitting (table : Table) : Prop where
  | scalar {name : String} {part : Section} {value : Value} : sectionAt name = some part →
      table.lookup name = some value → Scalar value → Misfitting table
  | switch {name key : String} {value : Value} : (name, key) ∈ switches →
      valueAt table name key = some value → (∀ on, value ≠ .boolean on) → Misfitting table
  | name {name : String} : valueAt table "display" "format" = some (.text name) → Unknown name →
      Misfitting table
  | kind {value : Value} : valueAt table "display" "format" = some value →
      (∀ name, value ≠ .text name) → (∀ entries, value ≠ .table entries) → Misfitting table

theorem foldlM_set {table : Table} {settings after : Settings} (distinct : Distinct table) :
    table.foldlM set settings = .ok after ↔
      orDefault readLog settings.log (table.lookup "log") = .ok after.log ∧
      orDefault readDisplay settings.display (table.lookup "display") = .ok after.display := by
  induction table generalizing settings with
  | nil =>
    cases settings; cases after
    simp [pure, Except.pure]
  | cons entry table ih =>
    obtain ⟨name, value⟩ := entry
    obtain ⟨fresh, rest⟩ := distinct.of_cons
    rw [List.foldlM_cons]
    by_cases isLog : name = "log"
    · subst isLog
      rw [set_log, map_bind_eq_ok_iff]
      cases read : readLog value <;> simp [ih rest, List.lookup_cons, fresh, read]
    by_cases isDisplay : name = "display"
    · subst isDisplay
      rw [set_display, map_bind_eq_ok_iff]
      cases read : readDisplay value <;> simp [ih rest, List.lookup_cons, fresh, read]
    rw [set_other isLog isDisplay, Toml.lookup_cons_of_ne isLog, Toml.lookup_cons_of_ne isDisplay]
    exact ih rest

section

variable {table : Table}

/-- A section that is absent or a table gives each field on its own. -/
theorem orDefault_readLog {log : LogSettings} (keyed : Toml.Table.Keyed table)
    (sectioned : Sectioned table) :
    orDefault readLog {} (table.lookup "log") = .ok log ↔
      orDefault boolean false (valueAt table "log" "debug") = .ok log.debug := by
  have sectional := sectioned.log
  unfold valueAt
  cases found : table.lookup "log" with
  | none =>
    cases log
    simp
  | some value =>
    rw [found] at sectional
    cases sectional
    exact foldlM_setLog (keyed.of_lookup found)

theorem orDefault_readDisplay {display : DisplaySettings} (keyed : Toml.Table.Keyed table)
    (sectioned : Sectioned table) :
    orDefault readDisplay {} (table.lookup "display") = .ok display ↔
      orDefault format .table (valueAt table "display" "format") = .ok display.format ∧
      orDefault boolean false (valueAt table "display" "locations") = .ok display.locations ∧
      orDefault boolean true (valueAt table "display" "color") = .ok display.coloured := by
  have sectional := sectioned.display
  unfold valueAt
  cases found : table.lookup "display" with
  | none =>
    cases display
    simp
  | some value =>
    rw [found] at sectional
    cases sectional
    exact foldlM_setDisplay (keyed.of_lookup found)

theorem ofTable_eq_ok_iff {settings : Settings} (keyed : Toml.Table.Keyed table)
    (sectioned : Sectioned table) :
    ofTable table = .ok settings ↔
      orDefault boolean false (valueAt table "log" "debug") = .ok settings.log.debug ∧
      orDefault format .table (valueAt table "display" "format") = .ok settings.display.format ∧
      orDefault boolean false (valueAt table "display" "locations") = .ok settings.display.locations ∧
      orDefault boolean true (valueAt table "display" "color") = .ok settings.display.coloured := by
  rw [ofTable, foldlM_set keyed.distinct, orDefault_readLog keyed sectioned,
    orDefault_readDisplay keyed sectioned]

theorem Switch.orDefault {default on : Bool} {found : Option Value} (switch : Switch default found on) :
    orDefault boolean default found = .ok on := by
  cases switch <;> rfl

theorem Choice.orDefault {found : Option Value} {choice : Format} (chosen : Choice found choice) :
    orDefault format .table found = .ok choice := by
  cases chosen with
  | absent => rfl
  | named => exact namedFormat_name choice
  | keyed => exact format_choice choice (.table [])

theorem ofTable_of_fits {settings : Settings} (keyed : Toml.Table.Keyed table) (fits : Fits table settings) :
    ofTable table = .ok settings :=
  (ofTable_eq_ok_iff keyed fits.sectioned).mpr
    ⟨fits.debug.orDefault, fits.format.orDefault, fits.locations.orDefault, fits.coloured.orDefault⟩

/-- A field of a section that is refused leads to some refusal. -/
theorem exists_sectionRefused {name key : String} {part : Section} {value : Value} {misfit : Misfit}
    (known : sectionAt name = some part) (found : valueAt table name key = some value)
    (refused : FieldRefused name (key, value) misfit) :
    ∃ entry ∈ table, ∃ other, SectionRefused entry other := by
  unfold valueAt at found
  split at found
  · rename_i entries holds
    obtain ⟨other, first⟩ := exists_firstRefused (Toml.mem_of_lookup found) refused
    exact ⟨(name, .table entries), Toml.mem_of_lookup holds, other, .field known first⟩
  · cases found

theorem Misfitting.exists_firstRefused (misfitting : Misfitting table) :
    ∃ misfit, FirstRefused SectionRefused table misfit := by
  have refused : ∃ entry ∈ table, ∃ misfit, SectionRefused entry misfit := by
    cases misfitting with
    | scalar known found scalar => exact ⟨_, Toml.mem_of_lookup found, _, .scalar known scalar⟩
    | @switch name key value member found other =>
      have known : ∃ part, sectionAt name = some part := by
        simp only [switches, List.mem_cons, Prod.mk.injEq, List.not_mem_nil, or_false] at member
        rcases member with ⟨rfl, _⟩ | ⟨rfl, _⟩ | ⟨rfl, _⟩ <;> exact ⟨_, rfl⟩
      obtain ⟨part, known⟩ := known
      exact exists_sectionRefused known found (.switch member other)
    | name found unknown => exact exists_sectionRefused rfl found (.format (.name unknown))
    | kind found noText noTable =>
      exact exists_sectionRefused rfl found (.format (.kind noText noTable))
  obtain ⟨entry, member, misfit, refused⟩ := refused
  exact Settings.exists_firstRefused member refused

end

/-- A table loses the keys that the section has no field for. -/
def Section.known (part : Section) : Value → Value
  | .table entries => .table (entries.filter fun entry => part.keys.contains entry.1)
  | value => value

/-- The document without the keys that no section and no field has. -/
def known (table : Table) : Table :=
  table.filterMap fun entry => (sectionAt entry.1).map fun part => (entry.1, part.known entry.2)

theorem readSection_known {α : Type} {title : String} {part : Section} {default : α}
    {set : α → String × Value → Except Misfit α}
    (passes : ∀ state key value, key ∉ part.keys → set state (key, value) = .ok state) (value : Value) :
    readSection title part.keys default set (part.known value) =
      readSection title part.keys default set value := by
  cases value with
  | text | integer | float | boolean | moment | array | elements => rfl
  | table entries =>
    rw [Section.known, readSection, readSection, List.foldlM_filter]
    congr 1
    funext state entry
    split
    · rfl
    · rename_i unknown
      exact (passes state entry.1 entry.2 (by simpa using unknown)).symm

theorem ofTable_known (table : Table) : ofTable (known table) = ofTable table := by
  rw [ofTable, ofTable, known, List.foldlM_filterMap]
  congr 1
  funext settings entry
  obtain ⟨name, value⟩ := entry
  by_cases isLog : name = "log"
  · subst isLog
    have same : readLog (Section.known ⟨"ConfigSectionLog", ["debug"]⟩ value) = readLog value :=
      readSection_known (fun log key value unknown => setLog_other (by simpa using unknown) log value) value
    simp only [sectionAt, Option.map_some, set_log, same]
  by_cases isDisplay : name = "display"
  · subst isDisplay
    have same : readDisplay (Section.known ⟨"ConfigSectionDisplay", ["format", "locations", "color"]⟩ value) =
        readDisplay value := by
      refine readSection_known (fun display key value unknown => ?_) value
      simp only [List.mem_cons, List.not_mem_nil, or_false, not_or] at unknown
      exact setDisplay_other unknown.1 unknown.2.1 unknown.2.2 display value
    simp only [sectionAt, Option.map_some, set_display, same]
  rw [set_other isLog isDisplay]
  simp [sectionAt, pure, Except.pure]

theorem read_eq_ofTable {document : String} {table : Table} (reads : Toml.read document = some table) :
    read document = (ofTable table).mapError .misfit := by
  rw [read, reads]

section

variable {α ε ε' : Type} {found : Except ε α} {reason : ε → ε'}

theorem mapError_eq_ok_iff {value : α} : found.mapError reason = .ok value ↔ found = .ok value := by
  cases found with
  | ok found =>
    constructor
    · exact fun same => congrArg Except.ok (Except.ok.inj same)
    · exact fun same => congrArg Except.ok (Except.ok.inj same)
  | error fault => exact ⟨nofun, nofun⟩

theorem mapError_eq_error_iff (injective : ∀ one other, reason one = reason other → one = other) {fault : ε} :
    found.mapError reason = .error (reason fault) ↔ found = .error fault := by
  cases found with
  | ok found => exact ⟨nofun, nofun⟩
  | error other =>
    constructor
    · exact fun same => congrArg Except.error (injective _ _ (Except.error.inj same))
    · intro same
      cases same
      rfl

end

theorem read_eq_ok_iff {document : String} {table : Table} {settings : Settings}
    (reads : Toml.read document = some table) :
    read document = .ok settings ↔ ofTable table = .ok settings := by
  rw [read_eq_ofTable reads, mapError_eq_ok_iff]

theorem read_eq_misfit_iff {document : String} {table : Table} {misfit : Misfit}
    (reads : Toml.read document = some table) :
    read document = .error (.misfit misfit) ↔ FirstRefused SectionRefused table misfit := by
  rw [read_eq_ofTable reads, ← ofTable_eq_error_iff]
  exact mapError_eq_error_iff fun _ _ => Error.misfit.inj

/-- Where all sections are absent or tables, each field is its value there or its default, and two
documents with the same fields give the same settings. A value of a wrong kind is refused, and what
is reported is the first entry in the order of the parsed table that is refused. Keys that no field
has change neither. -/
theorem read_field_by_field {document : String} {table : Table} (reads : Toml.read document = some table) :
    (∀ settings, Fits table settings → read document = .ok settings) ∧
    (∀ other after, Toml.read other = some after → Sectioned table → Sectioned after →
      SameFields table after → ∀ settings, read other = .ok settings ↔ read document = .ok settings) ∧
    (Misfitting table → ∃ misfit, read document = .error (.misfit misfit)) ∧
    (∀ misfit, read document = .error (.misfit misfit) ↔ FirstRefused SectionRefused table misfit) ∧
    ∀ other after, Toml.read other = some after → known after = known table →
      read other = read document := by
  refine ⟨?_, ?_, ?_, fun misfit => read_eq_misfit_iff reads, ?_⟩
  · intro settings fits
    exact (read_eq_ok_iff reads).mpr (ofTable_of_fits (Toml.read_keyed reads) fits)
  · intro other after readsOther sectioned sectionedOther same settings
    rw [read_eq_ok_iff reads, read_eq_ok_iff readsOther,
      ofTable_eq_ok_iff (Toml.read_keyed reads) sectioned,
      ofTable_eq_ok_iff (Toml.read_keyed readsOther) sectionedOther,
      same.debug, same.format, same.locations, same.coloured]
  · intro misfitting
    obtain ⟨misfit, first⟩ := misfitting.exists_firstRefused
    exact ⟨misfit, (read_eq_misfit_iff reads).mpr first⟩
  · intro other after readsOther same
    rw [read_eq_ofTable reads, read_eq_ofTable readsOther, ← ofTable_known table, ← same, ofTable_known]

/-- One document with its fields in two spellings, and one whose first misfit is a section. -/
theorem read_among_unknown_keys :
    read "log.debug = true\ndisplay.format.json = \x7b\x7d" = .ok ⟨⟨true⟩, ⟨.json, false, true⟩⟩ ∧
    (∀ settings, read "[display.format.json]\n[log]\ndebug = true\n[a]" = .ok settings ↔
      read "log.debug = true\ndisplay.format.json = \x7b\x7d" = .ok settings) ∧
    (∃ misfit, read "log = true\ndisplay.color = 'no'" = .error (.misfit misfit)) ∧
    read "log = true\ndisplay.color = 'no'" =
      .error (.misfit (.notSection "ConfigSectionLog" (.boolean true))) ∧
    read "a.b = true\nlog = true\ndisplay.color = 'no'" = read "log = true\ndisplay.color = 'no'" := by
  have dotted : Toml.read "log.debug = true\ndisplay.format.json = \x7b\x7d" =
      some [("log", .table [("debug", .boolean true)]),
        ("display", .table [("format", .table [("json", .table [])])])] := by decide +kernel
  have headed : Toml.read "[display.format.json]\n[log]\ndebug = true\n[a]" =
      some [("display", .table [("format", .table [("json", .table [])])]),
        ("log", .table [("debug", .boolean true)]), ("a", .table [])] := by decide +kernel
  have short : Toml.read "log = true\ndisplay.color = 'no'" =
      some [("log", .boolean true), ("display", .table [("color", .text "no")])] := by decide +kernel
  have long : Toml.read "a.b = true\nlog = true\ndisplay.color = 'no'" =
      some [("a", .table [("b", .boolean true)]), ("log", .boolean true),
        ("display", .table [("color", .text "no")])] := by decide +kernel
  have log : sectionAt "log" = some ⟨"ConfigSectionLog", ["debug"]⟩ := rfl
  obtain ⟨gives, frame, _⟩ := read_field_by_field dotted
  obtain ⟨_, _, refuses, reports, blind⟩ := read_field_by_field short
  refine ⟨gives _ ?_, frame _ _ headed ⟨.table _, .table _⟩ ⟨.table _, .table _⟩ ⟨rfl, rfl, rfl, rfl⟩,
    refuses (.scalar log rfl (.boolean true)), (reports _).mpr ?_, blind _ _ long rfl⟩
  · exact ⟨⟨.table _, .table _⟩, .given true, .keyed .json, .absent, .absent⟩
  · have refused := SectionRefused.scalar log (.boolean true)
    exact (firstRefused_cons_of_refused refused).mpr refused

/-- The last line belongs to the section that the first one opens, so it is read before the second. -/
theorem read_interleaved_sections :
    read "display.locations = false\nlog.debug = 1\ndisplay.color = 2" =
      .error (.misfit (.notBoolean (.integer 2))) ∧
    read "display.locations = false\nlog.debug = 1" = .error (.misfit (.notBoolean (.integer 1))) := by
  have whole : Toml.read "display.locations = false\nlog.debug = 1\ndisplay.color = 2" =
      some [("display", .table [("locations", .boolean false), ("color", .integer 2)]),
        ("log", .table [("debug", .integer 1)])] := by decide +kernel
  have front : Toml.read "display.locations = false\nlog.debug = 1" =
      some [("display", .table [("locations", .boolean false)]),
        ("log", .table [("debug", .integer 1)])] := by decide +kernel
  exact ⟨(read_eq_ofTable whole).trans rfl, (read_eq_ofTable front).trans rfl⟩

end TokenScan.Settings
