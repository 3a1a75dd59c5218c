import Mathlib.Data.List.TakeWhile
import TokenScan.Proofs.Arguments

/-! The spellings of options. A value may be attached to its option or follow it, an option has a long
name and a letter, and letters may be run together. Whatever the spelling, reading it does what
adding its values one after the other does. The values are checked late, so this is said of states:
a state counts for the values that it settles to, and the arguments lead from state to state or are
refused. Why they are refused is left out, since a second file is refused before it is added. -/
namespace TokenScan.Arguments

/-- A flag of a level that sets something, unlike those that ask for a page. -/
structure Level.Flag (level : Level) (slot : Slot) : Prop where
  known : slot ∈ level.slots
  bare : slot.takesValue = false
  sets : slot ≠ .help ∧ slot ≠ .version

/-- An option of a level that comes with a value. -/
structure Level.Valued (level : Level) (slot : Slot) : Prop where
  known : slot ∈ level.slots
  valued : slot.takesValue = true

/-- An argument that cannot be taken for an option. -/
def Undashed (argument : String) : Prop := argument.toList.head? ≠ some '-'

instance (argument : String) : Decidable (Undashed argument) := inferInstanceAs (Decidable (_ ≠ _))

/-- Letters behind one dash, as in `-l`, `-f=json`, `-fjson` and `-lf json`: flags, and as the last an
option with its value. The value stands in the same argument, or the option is left open and the value
is to follow. -/
inductive Lettered (level : Level) : Values → List Char → Option Slot → Prop
  | flag {slot letter} : level.Flag slot → slot.short? = some letter →
      Lettered level [(slot, "")] [letter] none
  | more {slot letter values letters last} : level.Flag slot → slot.short? = some letter →
      Lettered level values letters last →
      Lettered level ((slot, "") :: values) (letter :: letters) last
  | equals {slot letter} (text : String) : level.Valued slot → slot.short? = some letter →
      Lettered level [(slot, text)] (letter :: '=' :: text.toList) none
  | joined {slot letter} {text : String} : level.Valued slot → slot.short? = some letter →
      text ≠ "" → text.toList.head? ≠ some '=' →
      Lettered level [(slot, text)] (letter :: text.toList) none
  | apart {slot letter} : level.Valued slot → slot.short? = some letter →
      Lettered level [] [letter] (some slot)

/-- The arguments in which values are written that belong together. -/
inductive Written (level : Level) : Values → List String → Prop
  | long {slot name} : level.Flag slot → slot.long? = some name →
      Written level [(slot, "")] ["--" ++ name]
  | longEquals {slot name} (text : String) : level.Valued slot → slot.long? = some name →
      Written level [(slot, text)] ["--" ++ name ++ "=" ++ text]
  | longApart {slot name text} : level.Valued slot → slot.long? = some name → Undashed text →
      Written level [(slot, text)] ["--" ++ name, text]
  | letters {values letters} : Lettered level values letters none →
      Written level values ["-" ++ String.ofList letters]
  | lettersApart {values letters slot text} : Lettered level values letters (some slot) →
      Undashed text → Written level (values ++ [(slot, text)]) ["-" ++ String.ofList letters, text]
  | file {path} : level = some .tokens → Undashed path → Written level [(.file, path)] [path]

/-- Arguments that give the values, in this order. -/
inductive Spelled (level : Level) : Values → List String → Prop
  | nil : Spelled level [] []
  | cons {entries words values arguments} : Written level entries words →
      Spelled level values arguments → Spelled level (entries ++ values) (words ++ arguments)

theorem toOption_bind {α β : Type} (value : Except UsageFault α) (next : α → Except UsageFault β) :
    (value >>= next).toOption = value.toOption.bind fun given => (next given).toOption := by
  cases value <;> rfl

theorem toOption_map {α β : Type} (next : α → β) (value : Except UsageFault α) :
    (next <$> value).toOption = value.toOption.map next := by
  cases value <;> rfl

theorem toOption_eq_some_iff {α : Type} {value : Except UsageFault α} {result : α} :
    value.toOption = some result ↔ value = .ok result := by
  cases value <;> simp [Except.toOption]

theorem toOption_eq_none_iff {α : Type} {value : Except UsageFault α} :
    value.toOption = none ↔ ∃ fault, value = .error fault := by
  cases value <;> simp [Except.toOption]

/-- The values with the entries added to them in turn, unless one of them is refused. -/
def Values.fill? (values entries : Values) : Option Values :=
  entries.foldlM (fun values entry => (values.add entry.1 entry.2).toOption) values

/-- The values that a state of the reader counts for. -/
def Given.settled? (given : Given) : Option Values := given.settle.toOption

theorem Values.fill?_nil (values : Values) : values.fill? [] = some values := rfl

theorem Values.fill?_cons (values : Values) (slot : Slot) (text : String) (entries : Values) :
    values.fill? ((slot, text) :: entries) =
      (values.add slot text).toOption.bind (·.fill? entries) := rfl

theorem Values.fill?_single (values : Values) (slot : Slot) (text : String) :
    values.fill? [(slot, text)] = (values.add slot text).toOption := Option.bind_fun_some _

theorem Values.fill?_append (values entries others : Values) :
    values.fill? (entries ++ others) = (values.fill? entries).bind (·.fill? others) :=
  List.foldlM_append

theorem Given.settled?_last (values : Values) (slot : Slot) (text : String) :
    Given.settled? ⟨values, some (slot, some text)⟩ = values.fill? [(slot, text)] :=
  (values.fill?_single slot text).symm

/-- The texts that a slot takes while it is free. -/
def Slot.Accepts : Slot → String → Prop
  | .config, path | .file, path => path ≠ ""
  | .format, name => Format.ofName? name ≠ none
  | .verbose, _ | .source, _ | .locations, _ | .help, _ | .version, _ => True

theorem Values.add_eq_ok_iff {values after : Values} {slot : Slot} {text : String} :
    values.add slot text = .ok after ↔
      values.has slot = false ∧ slot.Accepts text ∧ after = values ++ [(slot, text)] := by
  have accepts : slot.Accepts text ↔ ¬ ((slot = .config ∨ slot = .file) ∧ text = "") ∧
      ¬ (slot = .format ∧ Format.ofName? text = none) := by
    cases slot <;> simp [Slot.Accepts]
  rw [accepts, ← Bool.not_eq_true]
  unfold Values.add
  split
  · simp [*]
  split
  · simp [*]
  split
  · simp [*]
  · rename_i free filled known
    constructor
    · rintro ⟨⟩
      exact ⟨free, ⟨filled, known⟩, rfl⟩
    · rintro ⟨_, _, rfl⟩
      rfl

/-- What has been given shows in the values, also if it has not been checked yet. -/
theorem Given.has_of_settled? {given : Given} {values : Values}
    (settles : given.settled? = some values) (slot : Slot) : given.has slot = values.has slot := by
  obtain ⟨checked, last⟩ := given
  rcases last with _ | ⟨other, _ | text⟩
  · obtain rfl := Option.some.inj settles
    exact Given.has_settled checked slot
  · cases settles
  · have adds := toOption_eq_some_iff.mp settles
    obtain ⟨_, _, rfl⟩ := Values.add_eq_ok_iff.mp adds
    rw [Values.has_append, Values.has_cons]
    simp [Given.has, Values.has]

/-- No two slots have a name in common. -/
theorem Slot.long?_injective : Function.Injective Slot.long? := by
  intro first second
  cases first <;> cases second <;> decide

theorem Slot.short?_injective : Function.Injective Slot.short? := by
  intro first second
  cases first <;> cases second <;> decide

theorem find?_named {α : Type} [DecidableEq α] {name? : Slot → Option α}
    (injective : Function.Injective name?) {slots : List Slot} {slot : Slot} {name : α}
    (known : slot ∈ slots) (named : name? slot = some name) :
    (slots.find? fun slot => name? slot == some name) = some slot := by
  have fits : (slots.find? fun slot => name? slot == some name).isSome :=
    List.find?_isSome.mpr ⟨slot, known, beq_iff_eq.mpr named⟩
  obtain ⟨other, found⟩ := Option.isSome_iff_exists.mp fits
  have same := List.find?_some found
  rw [found, injective ((eq_of_beq same).trans named.symm)]

theorem Slot.long?_chars {slot : Slot} {name : String} (named : slot.long? = some name) :
    name ≠ "" ∧ '=' ∉ name.toList := by
  cases slot <;> cases named <;> decide

theorem Slot.short?_ne_dash {slot : Slot} {letter : Char} (named : slot.short? = some letter) :
    letter ≠ '-' := by
  cases slot <;> cases named <;> decide

theorem splitAtEquals_self {name : List Char} (plain : '=' ∉ name) :
    splitAtEquals name = (String.ofList name, none) := by
  have whole : name.dropWhile (· != '=') = [] :=
    List.dropWhile_eq_nil_iff.mpr (ne_equals_of_not_mem plain)
  rw [splitAtEquals, whole]

theorem shape_of_name {name : String} (named : name ≠ "") :
    Shape.of ("--" ++ name) = .long name.toList := by
  have chars : ("--" ++ name).toList = '-' :: '-' :: name.toList := by simp
  obtain ⟨c, rest, parts⟩ := List.exists_cons_of_ne_nil (mt String.toList_eq_nil_iff.mp named)
  rw [Shape.of, chars, parts]
  rfl

theorem shape_of_letters {letter : Char} (plain : letter ≠ '-') (letters : List Char) :
    Shape.of ("-" ++ String.ofList (letter :: letters)) = .short (letter :: letters) := by
  have chars : ("-" ++ String.ofList (letter :: letters)).toList = '-' :: letter :: letters := by
    simp
  rw [Shape.of, chars]
  split <;> simp_all

theorem shape_of_undashed {argument : String} (undashed : Undashed argument) :
    Shape.of argument = .plain := by
  unfold Undashed at undashed
  unfold Shape.of
  split <;> simp_all

theorem attachedValue_joined {text : String} (filled : text ≠ "") (apart : text.toList.head? ≠ some '=') :
    attachedValue text.toList = some text := by
  unfold attachedValue
  split <;> simp_all

variable {level : Level} {given : Given} {slot : Slot} {values : Values}

/-- The state behind the entries, none if one of them is refused. A slot that is left open waits for
its value. -/
def Given.filled? (given : Given) (entries : Values) (last : Option Slot) : Option Given :=
  (given.settled?.bind (·.fill? entries)).map (⟨·, last.map (·, none)⟩)

theorem Given.filled?_append (given : Given) (entries others : Values) (last : Option Slot) :
    given.filled? (entries ++ others) last =
      (given.filled? entries none).bind (·.filled? others last) := by
  unfold filled?
  cases given.settled? with
  | none => rfl
  | some values =>
    simp only [Option.bind_some, values.fill?_append]
    cases values.fill? entries <;> rfl

theorem Given.settled?_filled? (given : Given) (entries : Values) :
    (given.filled? entries none).bind settled? = given.settled?.bind (·.fill? entries) := by
  unfold filled?
  cases given.settled?.bind (·.fill? entries) <;> rfl

/-- The argument is read, and the state behind it is the next one, or it is refused. -/
def Leads (result : Except UsageFault Step) (next : Option Given) : Prop :=
  result.toOption = next.map .next

theorem Leads.bind {α : Type} {result : Except UsageFault Step} {next : Option Given}
    (leads : Leads result next) (rest : Step → Except UsageFault α) :
    (result >>= rest).toOption = next.bind fun given => (rest (.next given)).toOption := by
  unfold Leads at leads
  rw [toOption_bind, leads, Option.bind_map]
  rfl

/-- One more value is added to those that the state counts for. -/
theorem Given.added_toOption {α : Type} (given : Given) (slot : Slot) (text : String)
    (make : Values → α) :
    (given.settle >>= fun values => make <$> values.add slot text).toOption =
      (given.settled?.bind (·.fill? [(slot, text)])).map make := by
  simp only [toOption_bind, toOption_map, Values.fill?_single, Option.map_bind]
  rfl

theorem readFlag_leads (flag : level.Flag slot) :
    Leads (readFlag level slot given) (given.filled? [(slot, "")] none) := by
  obtain ⟨known, bare, sets⟩ := flag
  have adds : readFlag level slot given = given.settle >>= fun values =>
      (Step.next ⟨·, none⟩) <$> values.add slot "" := by
    cases slot
    case help => exact absurd rfl sets.1
    case version => exact absurd rfl sets.2
    all_goals rfl
  rw [Leads, adds, given.added_toOption, Given.filled?, Option.map_map]
  rfl

theorem readValued_leads (slot : Slot) (text : String) (given : Given) :
    (readValued slot (some text) given).toOption = given.filled? [(slot, text)] none :=
  given.added_toOption slot text (Given.mk · none)

theorem readValued_open_leads (slot : Slot) (given : Given) :
    (readValued slot none given).toOption = given.filled? [] (some slot) := by
  have adds : readValued slot none given =
      given.settle >>= fun values => .ok ⟨values, some (slot, none)⟩ := rfl
  rw [adds, toOption_bind, Given.filled?, Given.settled?]
  cases given.settle.toOption <;> rfl

theorem readShort_valued {letter : Char} (option : level.Valued slot)
    (named : slot.short? = some letter) (letters : List Char) (given : Given) :
    readShort level (letter :: letters) given =
      .next <$> readValued slot (attachedValue letters) given := by
  rw [readShort, find?_named Slot.short?_injective option.known named]
  simp only [option.valued, if_true]

theorem readShort_flag {letter : Char} (flag : level.Flag slot) (named : slot.short? = some letter)
    (letters : List Char) (given : Given) :
    (readShort level (letter :: letters) given).toOption =
      (given.filled? [(slot, "")] none).bind fun given => (readShort level letters given).toOption := by
  rw [readShort, find?_named Slot.short?_injective flag.known named]
  simp only [flag.bare, Bool.false_eq_true, if_false]
  exact (readFlag_leads flag).bind _

/-- By the letters: each flag hands its state on to the letters behind it. -/
theorem Lettered.leads {letters : List Char} {last : Option Slot}
    (lettered : Lettered level values letters last) (given : Given) :
    Leads (readShort level letters given) (given.filled? values last) := by
  induction lettered generalizing given with
  | @flag slot letter flag named =>
    rw [Leads, readShort_flag flag named]
    cases given.filled? [(slot, "")] none <;> rfl
  | @more slot letter values letters last flag named _ ih =>
    have behind := given.filled?_append [(slot, "")] values last
    rw [List.singleton_append] at behind
    rw [Leads, readShort_flag flag named, behind]
    cases given.filled? [(slot, "")] none with
    | none => rfl
    | some given => exact ih given
  | equals text option named =>
    rw [Leads, readShort_valued option named, toOption_map, attachedValue, String.ofList_toList,
      readValued_leads]
  | joined option named filled apart =>
    rw [Leads, readShort_valued option named, toOption_map, attachedValue_joined filled apart,
      readValued_leads]
  | apart option named =>
    rw [Leads, readShort_valued option named, toOption_map, attachedValue, readValued_open_leads]

theorem readArgument_name {name : String} (known : slot ∈ level.slots) (named : slot.long? = some name)
    (given : Given) : readArgument level ("--" ++ name) given =
      if slot.takesValue then .next <$> readValued slot none given else readFlag level slot given := by
  obtain ⟨some, plain⟩ := Slot.long?_chars named
  simp only [readArgument, shape_of_name some, readLong, splitAtEquals_self plain,
    String.ofList_toList, find?_named Slot.long?_injective known named, Option.isSome_none,
    Bool.false_eq_true, if_false]

theorem leads_long {name : String} (flag : level.Flag slot) (named : slot.long? = some name) :
    Leads (readArgument level ("--" ++ name) given) (given.filled? [(slot, "")] none) := by
  rw [readArgument_name flag.known named, flag.bare]
  exact readFlag_leads flag

theorem leads_longEquals {name : String} (option : level.Valued slot) (named : slot.long? = some name)
    (text : String) : Leads (readArgument level ("--" ++ name ++ "=" ++ text) given)
      (given.filled? [(slot, text)] none) := by
  have found := find?_named Slot.long?_injective option.known named
  rw [Leads, readArgument_long found option.valued (Slot.long?_chars named).2, toOption_map,
    readValued_leads]

theorem leads_longOpen {name : String} (option : level.Valued slot) (named : slot.long? = some name) :
    Leads (readArgument level ("--" ++ name) given) (given.filled? [] (some slot)) := by
  rw [Leads, readArgument_name option.known named, option.valued, if_pos rfl, toOption_map,
    readValued_open_leads]

theorem Lettered.first {letters : List Char} {last : Option Slot}
    (lettered : Lettered level values letters last) :
    ∃ letter others, letters = letter :: others ∧ letter ≠ '-' := by
  cases lettered with
  | flag _ named | more _ named | equals _ _ named | joined _ named | apart _ named =>
    exact ⟨_, _, rfl, Slot.short?_ne_dash named⟩

theorem leads_letters {letters : List Char} {last : Option Slot}
    (lettered : Lettered level values letters last) :
    Leads (readArgument level ("-" ++ String.ofList letters) given) (given.filled? values last) := by
  obtain ⟨letter, others, rfl, plain⟩ := lettered.first
  simp only [readArgument, shape_of_letters plain]
  exact lettered.leads given

/-- The value of an option that was left open. -/
theorem leads_value {text : String} (undashed : Undashed text) (slot : Slot) (values : Values) :
    Leads (readArgument level text ⟨values, some (slot, none)⟩)
      (some ⟨values, some (slot, some text)⟩) := by
  simp only [readArgument, shape_of_undashed undashed]
  rfl

theorem readArgument_word {word : String} (undashed : Undashed word) (ready : given.waiting = false) :
    readArgument level word given = .next <$> readWord level word given := by
  simp only [readArgument, shape_of_undashed undashed]
  obtain ⟨checked, last⟩ := given
  rcases last with _ | ⟨slot, _ | text⟩
  · rfl
  · cases ready
  · rfl

/-- A second file is refused at once, any other is checked later. -/
theorem leads_file {path : String} (undashed : Undashed path) (ready : given.waiting = false) :
    Leads (readArgument (some .tokens) path given)
      ((if given.has .file then none else given.settled?).map (⟨·, some (.file, some path)⟩)) := by
  rw [Leads, readArgument_word undashed ready, toOption_map, readWord]
  by_cases filled : given.has .file = true
  · simp only [filled, if_true]
    rfl
  · simp only [if_neg filled, toOption_bind, Given.settled?]
    cases given.settle.toOption <;> rfl

/-- A loop over arguments that reads each one at the level and goes on from the state behind it. Before
the command it may do otherwise with a word that is no value, since that may be the command. -/
def Reader (level : Level) {α : Type} (run : List String → Given → Except UsageFault α) : Prop :=
  ∀ {argument : String} {arguments : List String} {given : Given} {next : Option Given},
    (level = none → argument.toList.head? = some '-' ∨ given.waiting = true) →
    Leads (readArgument level argument given) next →
    (run (argument :: arguments) given).toOption = next.bind fun after => (run arguments after).toOption

theorem reader_readCommand (command : Command) : Reader (some command) (readCommand command) := by
  intro argument arguments given next _ leads
  exact leads.bind _

theorem reader_readProgram : Reader none readProgram := by
  intro argument arguments given next inert leads
  rw [readProgram_argument arguments (inert rfl)]
  exact leads.bind _

/-- Through the arguments, every loop over those of the level gets from the state to one that counts
for the values. If there are no such values, an argument is refused on the way or the last state
cannot be settled. -/
def Reaches (level : Level) (arguments : List String) (given : Given) (values : Option Values) : Prop :=
  ∃ next : Option Given, next.bind Given.settled? = values ∧
    (∀ after, next = some after → after.waiting = false) ∧
    ∀ {α : Type} {run : List String → Given → Except UsageFault α}, Reader level run → ∀ rest,
      (run (arguments ++ rest) given).toOption = next.bind fun after => (run rest after).toOption

theorem Given.waiting_filled? {entries : Values} {after : Given}
    (reached : given.filled? entries none = some after) : after.waiting = false := by
  obtain ⟨values, _, rfl⟩ := Option.map_eq_some_iff.mp reached
  rfl

theorem settled?_pending (given : Option Values) (slot : Slot) (text : String) :
    (given.map fun values => (⟨values, some (slot, some text)⟩ : Given)).bind Given.settled? =
      given.bind (·.fill? [(slot, text)]) := by
  cases given with
  | none => rfl
  | some values => exact Given.settled?_last values slot text

theorem waiting_of_pending {given : Option Values} {text : String} {after : Given}
    (pending : given.map (⟨·, some (slot, some text)⟩) = some after) : after.waiting = false := by
  obtain ⟨values, _, rfl⟩ := Option.map_eq_some_iff.mp pending
  rfl

theorem reaches_option {argument : String} {entries : Values}
    (dashed : argument.toList.head? = some '-')
    (leads : Leads (readArgument level argument given) (given.filled? entries none)) :
    Reaches level [argument] given (given.settled?.bind (·.fill? entries)) := by
  refine ⟨_, given.settled?_filled? entries, fun after => Given.waiting_filled?, ?_⟩
  intro α run reader rest
  exact reader (fun _ => .inl dashed) leads

theorem reaches_open {argument text : String} {entries : Values}
    (dashed : argument.toList.head? = some '-') (undashed : Undashed text)
    (leads : Leads (readArgument level argument given) (given.filled? entries (some slot))) :
    Reaches level [argument, text] given
      (given.settled?.bind (·.fill? (entries ++ [(slot, text)]))) := by
  simp only [Values.fill?_append, ← Option.bind_assoc]
  refine ⟨_, settled?_pending _ slot text, fun after => waiting_of_pending, ?_⟩
  intro α run reader rest
  have first := @reader argument (text :: rest) _ _ (fun _ => .inl dashed) leads
  refine first.trans ?_
  unfold Given.filled?
  cases given.settled?.bind (·.fill? entries) with
  | none => rfl
  | some values => exact reader (fun _ => .inr rfl) (leads_value undashed slot values)

/-- A file counts for its value, also if it is refused before that is checked. -/
theorem reaches_file {path : String} (undashed : Undashed path) (ready : given.waiting = false) :
    Reaches (some .tokens) [path] given (given.settled?.bind (·.fill? [(.file, path)])) := by
  have same : given.settled?.bind (·.fill? [(.file, path)]) =
      (if given.has .file then none else given.settled?).bind (·.fill? [(.file, path)]) := by
    split
    · rename_i filled
      refine Option.bind_eq_none_iff.mpr fun values settles => ?_
      rw [Given.has_of_settled? settles] at filled
      rw [values.fill?_single, Values.add, if_pos filled]
      rfl
    · rfl
  rw [same]
  refine ⟨_, settled?_pending _ .file path, fun after => waiting_of_pending, ?_⟩
  intro α run reader rest
  exact reader (fun outside => absurd outside (Option.some_ne_none _)) (leads_file undashed ready)

theorem Written.reaches {entries : Values} {words : List String} (written : Written level entries words)
    (ready : given.waiting = false) :
    Reaches level words given (given.settled?.bind (·.fill? entries)) := by
  cases written with
  | long flag named => exact reaches_option (by simp) (leads_long flag named)
  | longEquals text option named =>
    exact reaches_option (by simp) (leads_longEquals option named text)
  | longApart option named undashed =>
    exact reaches_open (by simp) undashed (leads_longOpen option named)
  | letters lettered => exact reaches_option (by simp) (leads_letters lettered)
  | lettersApart lettered undashed => exact reaches_open (by simp) undashed (leads_letters lettered)
  | file command undashed =>
    subst command
    exact reaches_file undashed ready

/-- By the arguments: what is written first is read first, and the rest from where that leads. -/
theorem Spelled.reaches {arguments : List String} (spelled : Spelled level values arguments)
    (ready : given.waiting = false) :
    Reaches level arguments given (given.settled?.bind (·.fill? values)) := by
  induction spelled generalizing given with
  | nil =>
    refine ⟨some given, (Option.bind_fun_some _).symm, ?_, fun _ _ => rfl⟩
    rintro after ⟨⟩
    exact ready
  | @cons entries words values arguments written _ ih =>
    obtain ⟨middle, settles, waits, first⟩ := written.reaches ready
    simp only [Values.fill?_append, ← Option.bind_assoc, ← settles]
    cases middle with
    | none =>
      refine ⟨none, rfl, nofun, ?_⟩
      intro α run reader rest
      rw [List.append_assoc, first reader]
      rfl
    | some middle =>
      obtain ⟨last, settles', waits', others⟩ := ih (waits middle rfl)
      refine ⟨last, settles', waits', ?_⟩
      intro α run reader rest
      rw [List.append_assoc, first reader, ← others reader]
      rfl

theorem Spelled.reaches_from_start {arguments : List String}
    (spelled : Spelled level values arguments) :
    Reaches level arguments .start (Values.fill? [] values) := @Spelled.reaches _ .start _ _ spelled rfl

theorem Spelled.readCommand {command : Command} {arguments : List String}
    (spelled : Spelled (some command) values arguments) :
    (readCommand command arguments .start).toOption = (Values.fill? [] values).map .inr := by
  obtain ⟨last, settles, _, reads⟩ := spelled.reaches_from_start
  have whole := reads (reader_readCommand command) []
  rw [List.append_nil] at whole
  rw [whole, ← settles]
  cases last with
  | none => rfl
  | some given => exact toOption_map _ _

/-- The command behind a state that waits for no value; the state itself is settled last. -/
theorem readProgram_command {command : Command} {arguments : List String}
    (spelled : Spelled (some command) values arguments) (ready : given.waiting = false) :
    (readProgram (command.name :: arguments) given).toOption = do
      let outer ← given.settled?
      let inner ← Values.fill? [] values
      let task ← (command.task inner).toOption
      return .run (invocation outer inner task) := by
  have named : Command.ofName? command.name = some command := by cases command <;> rfl
  rw [readProgram]
  simp only [ready, named, Bool.false_eq_true, if_false, toOption_bind, spelled.readCommand,
    Given.settled?]
  cases Values.fill? [] values with
  | none => cases given.settle <;> rfl
  | some inner =>
    simp only [Option.map_some, Option.bind_some, bind, Except.bind]
    cases command.task inner <;> cases given.settle <;> rfl

/-- A command line stands for the values that are spelled before and behind its command: it is
accepted if these are, and gives what they come to. -/
theorem read_spelled {command : Command} {outer inner : Values} {before after : List String}
    (first : Spelled none outer before) (last : Spelled (some command) inner after) :
    (read (before ++ command.name :: after)).toOption = do
      let outer ← Values.fill? [] outer
      let inner ← Values.fill? [] inner
      let task ← (command.task inner).toOption
      return .run (invocation outer inner task) := by
  obtain ⟨given, settles, waits, reads⟩ := first.reaches_from_start
  rw [read, reads reader_readProgram, ← settles]
  cases given with
  | none => rfl
  | some given => exact readProgram_command last (waits given rfl)

end TokenScan.Arguments
