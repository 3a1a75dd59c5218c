import TokenScan.Settings

/-! What a document is refused for, said without the reading of it: the entries that are no setting,
and that the first of them is the one reported, in its section and among the sections. -/
namespace TokenScan.Settings

/-- The first item of a list that is refused for any reason is refused for this one. -/
def FirstRefused {α ε : Type} (Refuses : α → ε → Prop) (items : List α) (reason : ε) : Prop :=
  ∃ before item after, items = before ++ item :: after ∧
    (∀ earlier ∈ before, ∀ other, ¬ Refuses earlier other) ∧ Refuses item reason

section

variable {α β ε : Type} {Refuses : α → ε → Prop} {item : α} {items : List α} {reason : ε}

theorem not_firstRefused_nil : ¬ FirstRefused Refuses [] reason := by
  rintro ⟨before, item, after, parts, _⟩
  cases before <;> cases parts

theorem firstRefused_cons (passes : ∀ other, ¬ Refuses item other) :
    FirstRefused Refuses (item :: items) reason ↔ FirstRefused Refuses items reason := by
  constructor
  · rintro ⟨before, second, after, parts, earlier, refused⟩
    cases before with
    | nil =>
      obtain ⟨rfl, rfl⟩ := List.cons.inj parts
      exact absurd refused (passes reason)
    | cons first before =>
      obtain ⟨rfl, rfl⟩ := List.cons.inj parts
      exact ⟨before, second, after, rfl, (List.forall_mem_cons.mp earlier).2, refused⟩
  · rintro ⟨before, second, after, rfl, earlier, refused⟩
    exact ⟨item :: before, second, after, rfl, List.forall_mem_cons.mpr ⟨passes, earlier⟩, refused⟩

theorem firstRefused_cons_of_refused {other : ε} (refused : Refuses item other) :
    FirstRefused Refuses (item :: items) reason ↔ Refuses item reason := by
  constructor
  · rintro ⟨before, second, after, parts, earlier, found⟩
    cases before with
    | nil =>
      obtain ⟨rfl, rfl⟩ := List.cons.inj parts
      exact found
    | cons first before =>
      obtain ⟨rfl, _⟩ := List.cons.inj parts
      exact absurd refused (earlier item List.mem_cons_self other)
  · exact fun found => ⟨[], item, items, rfl, List.forall_mem_nil _, found⟩

theorem exists_firstRefused (member : item ∈ items) (refused : Refuses item reason) :
    ∃ other, FirstRefused Refuses items other := by
  induction items with
  | nil => cases member
  | cons first others ih =>
    by_cases passes : ∀ other, ¬ Refuses first other
    · rcases List.mem_cons.mp member with rfl | behind
      · exact absurd refused (passes reason)
      · obtain ⟨other, found⟩ := ih behind
        exact ⟨other, (firstRefused_cons passes).mpr found⟩
    · obtain ⟨other, refused⟩ := Classical.not_forall_not.mp passes
      exact ⟨other, (firstRefused_cons_of_refused refused).mpr refused⟩

/-- A run stops at the first item that a step refuses, if whether it does lies with the item alone. -/
theorem foldlM_eq_error_iff {step : β → α → Except ε β}
    (refuses : ∀ state item reason, step state item = .error reason ↔ Refuses item reason)
    {state : β} : items.foldlM step state = .error reason ↔ FirstRefused Refuses items reason := by
  induction items generalizing state with
  | nil =>
    constructor
    · nofun
    · intro refused
      exact absurd refused not_firstRefused_nil
  | cons item items ih =>
    rw [List.foldlM_cons]
    cases taken : step state item with
    | error other =>
      have refused := (refuses state item other).mp taken
      rw [firstRefused_cons_of_refused refused, ← refuses state item reason, taken]
      exact Iff.rfl
    | ok next =>
      have passes (other : ε) : ¬ Refuses item other := by
        rw [← refuses state item other, taken]
        nofun
      rw [firstRefused_cons passes]
      exact ih

end

open Toml (Value Table)

/-- A value that holds no further values and is no moment. -/
inductive Scalar : Value → Prop where
  | text (value : String) : Scalar (.text value)
  | integer (value : Int) : Scalar (.integer value)
  | float (value : Decimal.Binary64) : Scalar (.float value)
  | boolean (value : Bool) : Scalar (.boolean value)

/-- No format has the name. -/
def Unknown (name : String) : Prop := ∀ format : Format, format.name ≠ name

/-- What stands under the name of a format is not empty. -/
inductive ContentRefused : Value → Misfit → Prop where
  | table (entry : String × Value) (entries : Table) :
      ContentRefused (.table (entry :: entries)) .notEmpty
  | array (item : Value) (items : List Value) : ContentRefused (.array (item :: items)) .notEmpty
  | elements (table : Table) (tables : List Table) :
      ContentRefused (.elements (table :: tables)) .notEmptyElements
  | scalar {value : Value} : Scalar value → ContentRefused value (.notTable value)
  | moment (value : Toml.Moment) : ContentRefused (.moment value) (.notTable (.moment value))

/-- The value names no format. -/
inductive FormatRefused : Value → Misfit → Prop where
  | name {name : String} : Unknown name → FormatRefused (.text name) (.unknownFormat name)
  | kind {value : Value} : (∀ name, value ≠ .text name) → (∀ entries, value ≠ .table entries) →
      FormatRefused value .notFormat
  | noChoice : FormatRefused (.table []) .noChoice
  | severalChoices (first second : String × Value) (others : Table) :
      FormatRefused (.table (first :: second :: others)) .severalChoices
  | choice {name : String} (value : Value) : Unknown name →
      FormatRefused (.table [(name, value)]) (.unknownFormat name)
  | content (format : Format) {value : Value} {misfit : Misfit} : ContentRefused value misfit →
      FormatRefused (.table [(format.name, value)]) misfit

/-- The fields that are on or off, each with its section. -/
def switches : List (String × String) :=
  [("log", "debug"), ("display", "locations"), ("display", "color")]

/-- The entry of the section is a field that does not fit. Any other key is as good as none. -/
inductive FieldRefused : String → String × Value → Misfit → Prop where
  | switch {name key : String} {value : Value} : (name, key) ∈ switches →
      (∀ on, value ≠ .boolean on) → FieldRefused name (key, value) (.notBoolean value)
  | format {value : Value} {misfit : Misfit} : FormatRefused value misfit →
      FieldRefused "display" ("format", value) misfit

/-- What a misfit calls the section, and the keys of its fields. -/
structure Section where
  title : String
  keys : List String

def sectionAt : String → Option Section
  | "log" => some ⟨"ConfigSectionLog", ["debug"]⟩
  | "display" => some ⟨"ConfigSectionDisplay", ["format", "locations", "color"]⟩
  | _ => none

/-- The fields that a value holds. An array holds them in the order of their keys. -/
def fieldsOf (keys : List String) : Value → List (String × Value)
  | .table entries => entries
  | .array items => keys.zip items
  | .elements tables => keys.zip (tables.map .table)
  | _ => []

/-- The entry of the table is a section that does not fit, for the first reason in it. -/
inductive SectionRefused : String × Value → Misfit → Prop where
  | scalar {name : String} {part : Section} {value : Value} : sectionAt name = some part →
      Scalar value → SectionRefused (name, value) (.notSection part.title value)
  | field {name : String} {part : Section} {value : Value} {misfit : Misfit} :
      sectionAt name = some part →
      FirstRefused (FieldRefused name) (fieldsOf part.keys value) misfit →
      SectionRefused (name, value) misfit

section

variable {α β ε : Type} {found : Except ε α} {reason : ε}

theorem map_eq_error_iff {f : α → β} : f <$> found = .error reason ↔ found = .error reason := by
  cases found <;> simp [Functor.map, Except.map]

end

section

variable {value : Value} {misfit : Misfit}

theorem boolean_eq_error_iff :
    boolean value = .error misfit ↔ (∀ on, value ≠ .boolean on) ∧ misfit = .notBoolean value := by
  cases value <;> simp [boolean, eq_comm]

@[simp] theorem namedFormat_name (format : Format) : namedFormat format.name = .ok format := by
  rw [namedFormat, Format.ofName?_name]

theorem name_of_ofName? {name : String} {choice : Format} (found : Format.ofName? name = some choice) :
    choice.name = name := by
  simpa using List.find?_some found

theorem name_of_namedFormat {name : String} {choice : Format} (named : namedFormat name = .ok choice) :
    choice.name = name := by
  unfold namedFormat at named
  split at named
  · rename_i choice found
    cases named
    exact name_of_ofName? found
  · cases named

theorem namedFormat_eq_error_iff {name : String} :
    namedFormat name = .error misfit ↔ Unknown name ∧ misfit = .unknownFormat name := by
  unfold namedFormat
  split
  · rename_i choice found
    have known : ¬ Unknown name := fun unknown => unknown choice (name_of_ofName? found)
    simp [known]
  · rename_i missing
    have unknown : Unknown name := by
      rintro format rfl
      simp at missing
    simp [unknown, eq_comm]

theorem nothing_eq_error_iff : nothing value = .error misfit ↔ ContentRefused value misfit := by
  constructor
  · intro refused
    cases value with
    | text value | integer value | float value | boolean value =>
      cases refused
      exact .scalar (by constructor)
    | moment value =>
      cases refused
      exact .moment value
    | array items =>
      cases items with
      | nil => cases refused
      | cons item items =>
        cases refused
        exact .array item items
    | table entries =>
      cases entries with
      | nil => cases refused
      | cons entry entries =>
        cases refused
        exact .table entry entries
    | elements tables =>
      cases tables with
      | nil => cases refused
      | cons table tables =>
        cases refused
        exact .elements table tables
  · intro refused
    cases refused with
    | table | array | elements | moment => rfl
    | scalar scalar => cases scalar <;> rfl

theorem format_choice (choice : Format) (value : Value) :
    format (.table [(choice.name, value)]) = (fun _ => choice) <$> nothing value := by
  rw [format, namedFormat_name]
  exact bind_pure_comp (fun _ => choice) (nothing value)

theorem format_eq_error_iff : format value = .error misfit ↔ FormatRefused value misfit := by
  constructor
  · intro refused
    cases value with
    | text name =>
      obtain ⟨unknown, rfl⟩ := namedFormat_eq_error_iff.mp refused
      exact .name unknown
    | integer | float | boolean | moment | array | elements =>
      cases refused
      exact .kind nofun nofun
    | table entries =>
      match entries with
      | [] =>
        cases refused
        exact .noChoice
      | first :: second :: others =>
        cases refused
        exact .severalChoices first second others
      | [(name, value)] =>
        cases named : namedFormat name with
        | error other =>
          obtain ⟨unknown, rfl⟩ := namedFormat_eq_error_iff.mp named
          rw [format, named] at refused
          cases refused
          exact .choice value unknown
        | ok choice =>
          obtain rfl := name_of_namedFormat named
          rw [format_choice, map_eq_error_iff] at refused
          exact .content choice (nothing_eq_error_iff.mp refused)
  · intro refused
    cases refused with
    | name unknown => exact namedFormat_eq_error_iff.mpr ⟨unknown, rfl⟩
    | kind noText noTable =>
      cases value with
      | text name => exact absurd rfl (noText name)
      | table entries => exact absurd rfl (noTable entries)
      | integer | float | boolean | moment | array | elements => rfl
    | noChoice => rfl
    | severalChoices => rfl
    | choice value unknown =>
      rw [format, namedFormat_eq_error_iff.mpr ⟨unknown, rfl⟩]
      rfl
    | content choice refused =>
      rw [format_choice, map_eq_error_iff]
      exact nothing_eq_error_iff.mpr refused

end

theorem setLog_debug (log : LogSettings) (value : Value) :
    setLog log ("debug", value) = (fun debug => { log with debug }) <$> boolean value :=
  bind_pure_comp _ _

theorem setLog_other {key : String} (other : key ≠ "debug") (log : LogSettings) (value : Value) :
    setLog log (key, value) = .ok log := by
  simp [setLog, other]

theorem setDisplay_format (display : DisplaySettings) (value : Value) :
    setDisplay display ("format", value) = (fun format => { display with format }) <$> format value :=
  bind_pure_comp _ _

theorem setDisplay_locations (display : DisplaySettings) (value : Value) :
    setDisplay display ("locations", value) =
      (fun locations => { display with locations }) <$> boolean value :=
  bind_pure_comp _ _

theorem setDisplay_color (display : DisplaySettings) (value : Value) :
    setDisplay display ("color", value) =
      (fun coloured => { display with coloured }) <$> boolean value :=
  bind_pure_comp _ _

theorem setDisplay_other {key : String} (noFormat : key ≠ "format") (noLocations : key ≠ "locations")
    (noColor : key ≠ "color") (display : DisplaySettings) (value : Value) :
    setDisplay display (key, value) = .ok display := by
  simp [setDisplay, noFormat, noLocations, noColor]

section

variable {name key : String} {value : Value} {misfit : Misfit}

theorem fieldRefused_switch_iff (member : (name, key) ∈ switches) :
    FieldRefused name (key, value) misfit ↔ boolean value = .error misfit := by
  rw [boolean_eq_error_iff]
  constructor
  · intro refused
    cases refused with
    | switch _ other => exact ⟨other, rfl⟩
    | format => simp [switches] at member
  · rintro ⟨other, rfl⟩
    exact .switch member other

theorem fieldRefused_format_iff :
    FieldRefused "display" ("format", value) misfit ↔ format value = .error misfit := by
  rw [format_eq_error_iff]
  constructor
  · intro refused
    cases refused with
    | switch member => simp [switches] at member
    | format refused => exact refused
  · exact .format

theorem not_fieldRefused (noSwitch : (name, key) ∉ switches)
    (noFormat : (name, key) ≠ ("display", "format")) :
    ¬ FieldRefused name (key, value) misfit := by
  intro refused
  cases refused with
  | switch member => exact noSwitch member
  | format => exact noFormat rfl

theorem setLog_eq_error_iff (log : LogSettings) (field : String × Value) (misfit : Misfit) :
    setLog log field = .error misfit ↔ FieldRefused "log" field misfit := by
  obtain ⟨key, value⟩ := field
  by_cases debug : key = "debug"
  · subst debug
    rw [setLog_debug, map_eq_error_iff, fieldRefused_switch_iff (by simp [switches])]
  · rw [setLog_other debug]
    have passed : ¬ FieldRefused "log" (key, value) misfit :=
      not_fieldRefused (by simp [switches, debug]) (by simp)
    simp [passed]

theorem setDisplay_eq_error_iff (display : DisplaySettings) (field : String × Value) (misfit : Misfit) :
    setDisplay display field = .error misfit ↔ FieldRefused "display" field misfit := by
  obtain ⟨key, value⟩ := field
  by_cases isFormat : key = "format"
  · subst isFormat
    rw [setDisplay_format, map_eq_error_iff, fieldRefused_format_iff]
  by_cases isLocations : key = "locations"
  · subst isLocations
    rw [setDisplay_locations, map_eq_error_iff, fieldRefused_switch_iff (by simp [switches])]
  by_cases isColor : key = "color"
  · subst isColor
    rw [setDisplay_color, map_eq_error_iff, fieldRefused_switch_iff (by simp [switches])]
  rw [setDisplay_other isFormat isLocations isColor]
  have passed : ¬ FieldRefused "display" (key, value) misfit :=
    not_fieldRefused (by simp [switches, isLocations, isColor]) (by simp [isFormat])
  simp [passed]

section

variable {α : Type} {title : String} {keys : List String} {default : α}
  {set : α → String × Value → Except Misfit α}

theorem readSection_of_scalar (scalar : Scalar value) :
    readSection title keys default set value = .error (.notSection title value) := by
  cases scalar <;> rfl

theorem readSection_of_not_scalar (compound : ¬ Scalar value) :
    readSection title keys default set value = (fieldsOf keys value).foldlM set default := by
  cases value with
  | text | integer | float | boolean => exact absurd (by constructor) compound
  | moment | array | table | elements => rfl

theorem readSection_eq_error_iff {Refuses : String × Value → Misfit → Prop}
    (refuses : ∀ state field misfit, set state field = .error misfit ↔ Refuses field misfit) :
    readSection title keys default set value = .error misfit ↔
      (Scalar value ∧ misfit = .notSection title value) ∨
      FirstRefused Refuses (fieldsOf keys value) misfit := by
  by_cases scalar : Scalar value
  · have none : fieldsOf keys value = [] := by cases scalar <;> rfl
    rw [readSection_of_scalar scalar, none]
    simp [scalar, not_firstRefused_nil, eq_comm]
  · rw [readSection_of_not_scalar scalar, foldlM_eq_error_iff refuses]
    simp [scalar]

end

theorem sectionRefused_iff {part : Section} (found : sectionAt name = some part) :
    SectionRefused (name, value) misfit ↔ (Scalar value ∧ misfit = .notSection part.title value) ∨
      FirstRefused (FieldRefused name) (fieldsOf part.keys value) misfit := by
  constructor
  · intro refused
    cases refused with
    | scalar other scalar =>
      obtain rfl := Option.some.inj (found.symm.trans other)
      exact .inl ⟨scalar, rfl⟩
    | field other first =>
      obtain rfl := Option.some.inj (found.symm.trans other)
      exact .inr first
  · rintro (⟨scalar, rfl⟩ | first)
    · exact .scalar found scalar
    · exact .field found first

/-- The two sections, each read on its own. -/
def readLog : Value → Except Misfit LogSettings := readSection "ConfigSectionLog" ["debug"] {} setLog

def readDisplay : Value → Except Misfit DisplaySettings :=
  readSection "ConfigSectionDisplay" ["format", "locations", "color"] {} setDisplay

theorem set_log (settings : Settings) (value : Value) :
    set settings ("log", value) = (fun log => { settings with log }) <$> readLog value :=
  bind_pure_comp _ _

theorem set_display (settings : Settings) (value : Value) :
    set settings ("display", value) = (fun display => { settings with display }) <$> readDisplay value :=
  bind_pure_comp _ _

theorem set_other (noLog : name ≠ "log") (noDisplay : name ≠ "display") (settings : Settings)
    (value : Value) : set settings (name, value) = .ok settings := by
  simp [set, noLog, noDisplay]

theorem set_eq_error_iff (settings : Settings) (entry : String × Value) (misfit : Misfit) :
    set settings entry = .error misfit ↔ SectionRefused entry misfit := by
  obtain ⟨name, value⟩ := entry
  by_cases isLog : name = "log"
  · subst isLog
    rw [set_log, map_eq_error_iff, sectionRefused_iff rfl, readLog,
      readSection_eq_error_iff setLog_eq_error_iff]
  by_cases isDisplay : name = "display"
  · subst isDisplay
    rw [set_display, map_eq_error_iff, sectionRefused_iff rfl, readDisplay,
      readSection_eq_error_iff setDisplay_eq_error_iff]
  rw [set_other isLog isDisplay]
  have missing : sectionAt name = none := by simp [sectionAt]
  constructor
  · nofun
  · intro refused
    cases refused with
    | scalar found | field found => cases missing.symm.trans found

end

/-- What is reported is the first section of the table that is refused. -/
theorem ofTable_eq_error_iff {table : Table} {misfit : Misfit} :
    ofTable table = .error misfit ↔ FirstRefused SectionRefused table misfit :=
  foldlM_eq_error_iff set_eq_error_iff

end TokenScan.Settings
