import TokenScan.Arguments.Reading

/-! Reading one more argument in front of a command line. What is given there is carried along
untouched to the end, so a command line that is accepted without it is accepted with it, unless
it says the same again. -/
namespace TokenScan.Arguments

theorem bind_ok {α β : Type} {value : Except UsageFault α} {next : α → Except UsageFault β}
    {result : β} (run : value >>= next = .ok result) :
    ∃ given, value = .ok given ∧ next given = .ok result := by
  cases value with
  | error fault => cases run
  | ok given => exact ⟨given, rfl, run⟩

theorem map_ok {α β : Type} {value : Except UsageFault α} {next : α → β} {result : β}
    (run : next <$> value = .ok result) : ∃ given, value = .ok given ∧ next given = result := by
  cases value with
  | error fault => cases run
  | ok given => exact ⟨given, rfl, Except.ok.inj run⟩

theorem ne_equals_of_not_mem {name : List Char} (plain : '=' ∉ name) :
    ∀ c ∈ name, (c != '=') = true := by
  intro c member
  rw [bne_iff_ne]
  rintro rfl
  exact plain member

theorem splitAtEquals_append {name : List Char} (plain : '=' ∉ name) (text : String) :
    splitAtEquals (name ++ '=' :: text.toList) = (String.ofList name, some text) := by
  have inside := ne_equals_of_not_mem plain
  rw [splitAtEquals, List.dropWhile_append_of_pos inside, List.takeWhile_append_of_pos inside]
  simp

theorem shape_of_long (name text : String) :
    Shape.of ("--" ++ name ++ "=" ++ text) = .long (name.toList ++ '=' :: text.toList) := by
  have chars : ("--" ++ name ++ "=" ++ text).toList =
      '-' :: '-' :: (name.toList ++ '=' :: text.toList) := by
    simp
  rw [Shape.of, chars]
  cases name.toList <;> rfl

theorem readArgument_long {level : Level} {name : String} {slot : Slot}
    (known : (level.slots.find? fun slot => slot.long? == some name) = some slot)
    (valued : slot.takesValue = true) (plain : '=' ∉ name.toList) (text : String) (given : Given) :
    readArgument level ("--" ++ name ++ "=" ++ text) given =
      .next <$> readValued slot (some text) given := by
  simp only [readArgument, shape_of_long, readLong, splitAtEquals_append plain, String.ofList_toList]
  rw [known]
  simp only [valued, if_true]

theorem ofName?_of_dash {argument : String} (dash : argument.toList.head? = some '-') :
    Command.ofName? argument = none := by
  cases found : Command.ofName? argument with
  | none => rfl
  | some command =>
    have named := List.find?_some found
    rw [← eq_of_beq named] at dash
    cases command <;> exact absurd dash (by decide)

/-- Before the command, an option is neither a command nor the word for help, and nor is a value that
an option waits for. -/
theorem readProgram_argument {argument : String} {given : Given} (arguments : List String)
    (inert : argument.toList.head? = some '-' ∨ given.waiting = true) :
    readProgram (argument :: arguments) given = do
      match ← readArgument none argument given with
      | .next given => readProgram arguments given
      | .words _ => throw .missingCommand
      | .stop request => return request := by
  have command : (if given.waiting then none else Command.ofName? argument) = none := by
    rcases inert with dash | waiting
    · rw [ofName?_of_dash dash, ite_self]
    · rw [if_pos waiting]
  have help : ¬ (argument = "help" ∧ (!given.waiting) = true) := by
    rintro ⟨rfl, ready⟩
    rcases inert with dash | waiting
    · exact absurd dash (by decide)
    · rw [waiting] at ready
      cases ready
  rw [readProgram]
  simp only [command]
  exact if_neg help

theorem readProgram_option {argument : String} {given next : Given} (arguments : List String)
    (dash : argument.toList.head? = some '-')
    (reads : readArgument none argument given = .ok (.next next)) :
    readProgram (argument :: arguments) given = readProgram arguments next := by
  rw [readProgram_argument arguments (.inl dash), reads]
  rfl

/-- The settings to be loaded, as an option in front. -/
def configArguments : Option String → List String
  | none => []
  | some path => ["--config=" ++ path]

def configValues : Option String → Values
  | none => []
  | some path => [(.config, path)]

theorem readProgram_config {config : Option String} (named : config ≠ some "")
    (arguments : List String) : readProgram (configArguments config ++ arguments) .start =
      readProgram arguments ⟨configValues config, none⟩ := by
  cases config with
  | none => rfl
  | some path =>
    have filled : path ≠ "" := fun empty => named (congrArg some empty)
    have long := @readArgument_long none "config" .config rfl rfl (by decide) path .start
    apply readProgram_option
    · simp [String.toList_append]
    · refine long.trans ?_
      simp [readValued, Given.settle, Given.start, Values.add, Values.has, filled, bind, Except.bind,
        pure, Except.pure, Functor.map, Except.map, configValues]

theorem read_session {config : Option String} (named : config ≠ some "") :
    read (configArguments config ++ ["repl"]) = .ok (.run ⟨false, config, .session⟩) := by
  rw [read, readProgram_config named]
  cases config <;> rfl

theorem read_tokens {config : Option String} (named : config ≠ some "") (line : String) :
    read (configArguments config ++ ["tokens", "--source=" ++ line]) =
      .ok (.run ⟨false, config, .tokens (.source line) none false⟩) := by
  have long := @readArgument_long (some .tokens) "source" .source rfl rfl (by decide) line .start
  have option : "--source=" ++ line = "--" ++ "source" ++ "=" ++ line := rfl
  have values : readCommand .tokens ["--source=" ++ line] .start = .ok (.inr [(.source, line)]) := by
    rw [readCommand, option, long]
    rfl
  rw [read, readProgram_config named, readProgram]
  have command : Command.ofName? "tokens" = some .tokens := rfl
  simp only [Given.waiting, command, values, Bool.false_eq_true, if_false]
  cases config <;> rfl

/-- The same, with one more value given before all others. -/
def Given.behind (entry : Slot × String) (given : Given) : Given :=
  ⟨entry :: given.checked, given.last⟩

variable {entry : Slot × String}

theorem Values.has_append (values others : Values) (slot : Slot) :
    Values.has (values ++ others) slot = (values.has slot || others.has slot) := List.any_append

theorem Values.has_cons (entry : Slot × String) (values : Values) (slot : Slot) :
    Values.has (entry :: values) slot = (entry.1 == slot || values.has slot) := rfl

/-- What is free in the end was free before, and may be filled before. -/
theorem Values.add_behind {values after : Values} {slot : Slot} {text : String}
    (adds : values.add slot text = .ok after) (free : after.has entry.1 = false) :
    values.has entry.1 = false ∧ Values.add (entry :: values) slot text = .ok (entry :: after) := by
  unfold Values.add at adds ⊢
  split at adds
  · cases adds
  rename_i fresh
  split at adds
  · cases adds
  rename_i filled
  split at adds
  · cases adds
  rename_i known
  obtain rfl := Except.ok.inj adds
  rw [has_append, Bool.or_eq_false_iff] at free
  have apart : (entry.1 == slot) = false := by
    have other := free.2
    rw [has_cons, Bool.or_eq_false_iff] at other
    rw [Bool.beq_comm]
    exact other.1
  refine ⟨free.1, ?_⟩
  rw [if_neg (by simp [has_cons, apart, fresh]), if_neg filled, if_neg known]
  rfl

theorem Values.add_has {values after : Values} {slot : Slot} {text : String}
    (adds : values.add slot text = .ok after) : after.has slot = true := by
  unfold Values.add at adds
  repeat' split at adds
  all_goals try cases adds
  simp [has_append, has_cons]

theorem Given.has_settled (values : Values) (slot : Slot) :
    Given.has ⟨values, none⟩ slot = values.has slot := Bool.or_false _

theorem Given.settle_behind {given : Given} {values : Values} (settles : given.settle = .ok values)
    (free : values.has entry.1 = false) :
    given.has entry.1 = false ∧ (given.behind entry).settle = .ok (entry :: values) := by
  obtain ⟨checked, last⟩ := given
  rcases last with _ | ⟨slot, _ | text⟩
  · obtain rfl := Except.ok.inj settles
    refine ⟨?_, rfl⟩
    rw [Given.has, free]
    rfl
  · cases settles
  · obtain ⟨before, adds⟩ := Values.add_behind settles free
    refine ⟨?_, adds⟩
    have filled := Values.add_has settles
    have apart : (slot == entry.1) = false := by
      rw [beq_eq_false_iff_ne]
      rintro rfl
      rw [free] at filled
      cases filled
    rw [Given.has, before]
    simpa using apart

theorem readFlag_behind {level : Level} {slot : Slot} {given after : Given}
    (reads : readFlag level slot given = .ok (.next after)) (free : after.has entry.1 = false) :
    given.has entry.1 = false ∧
      readFlag level slot (given.behind entry) = .ok (.next (after.behind entry)) := by
  obtain ⟨values, settles, run⟩ := bind_ok reads
  by_cases asks : slot = .help ∨ slot = .version
  · rcases asks with rfl | rfl
    · cases run
    · cases run
  obtain ⟨filled, adds, same⟩ : ∃ filled, values.add slot "" = .ok filled ∧ after = ⟨filled, none⟩ := by
    cases slot
    case help => simp at asks
    case version => simp at asks
    all_goals
      obtain ⟨filled, adds, run⟩ := bind_ok run
      cases run
      exact ⟨filled, adds, rfl⟩
  subst same
  rw [Given.has_settled] at free
  obtain ⟨before, adds'⟩ := Values.add_behind adds free
  obtain ⟨first, settles'⟩ := Given.settle_behind settles before
  refine ⟨first, ?_⟩
  rw [readFlag, settles']
  cases slot
  case help => simp at asks
  case version => simp at asks
  all_goals
    simp only [bind, Except.bind, adds']
    rfl

theorem readValued_behind {slot : Slot} {attached : Option String} {given after : Given}
    (reads : readValued slot attached given = .ok after) (free : after.has entry.1 = false) :
    given.has entry.1 = false ∧
      readValued slot attached (given.behind entry) = .ok (after.behind entry) := by
  obtain ⟨values, settles, run⟩ := bind_ok reads
  cases attached with
  | none =>
    obtain rfl := Except.ok.inj run
    rw [Given.has, Bool.or_eq_false_iff] at free
    obtain ⟨first, settles'⟩ := Given.settle_behind settles free.1
    refine ⟨first, ?_⟩
    rw [readValued, settles']
    rfl
  | some text =>
    obtain ⟨filled, adds, run⟩ := bind_ok run
    obtain rfl := Except.ok.inj run
    rw [Given.has_settled] at free
    obtain ⟨before, adds'⟩ := Values.add_behind adds free
    obtain ⟨first, settles'⟩ := Given.settle_behind settles before
    refine ⟨first, ?_⟩
    rw [readValued, settles']
    simp only [bind, Except.bind, adds']
    rfl

theorem readLong_behind {level : Level} {word : List Char} {given after : Given}
    (reads : readLong level word given = .ok (.next after)) (free : after.has entry.1 = false) :
    given.has entry.1 = false ∧
      readLong level word (given.behind entry) = .ok (.next (after.behind entry)) := by
  unfold readLong at reads ⊢
  simp only at reads ⊢
  split at reads
  · cases reads
  rename_i slot _
  split at reads
  · rename_i valued
    obtain ⟨next, run, same⟩ := map_ok reads
    cases same
    obtain ⟨first, run'⟩ := readValued_behind run free
    refine ⟨first, ?_⟩
    rw [if_pos valued, run']
    rfl
  · rename_i flag
    split at reads
    · cases reads
    · rename_i bare
      rw [if_neg flag, if_neg bare]
      exact readFlag_behind reads free

/-- Letter by letter: each flag leads to the next one. -/
theorem readShort_behind {level : Level} {letters : List Char} {given after : Given}
    (reads : readShort level letters given = .ok (.next after)) (free : after.has entry.1 = false) :
    given.has entry.1 = false ∧
      readShort level letters (given.behind entry) = .ok (.next (after.behind entry)) := by
  induction letters generalizing given with
  | nil =>
    cases reads
    exact ⟨free, rfl⟩
  | cons letter letters ih =>
    unfold readShort at reads ⊢
    split at reads
    · cases reads
    rename_i slot _
    split at reads
    · rename_i valued
      obtain ⟨next, run, same⟩ := map_ok reads
      cases same
      obtain ⟨first, run'⟩ := readValued_behind run free
      refine ⟨first, ?_⟩
      rw [if_pos valued, run']
      rfl
    · rename_i flag
      obtain ⟨step, run, others⟩ := bind_ok reads
      cases step with
      | words => cases others
      | stop => cases others
      | next middle =>
        obtain ⟨before, others'⟩ := ih others
        obtain ⟨first, run'⟩ := readFlag_behind run before
        refine ⟨first, ?_⟩
        rw [if_neg flag, run']
        exact others'

/-- Before the command no word is read as a file, so only options matter. -/
theorem readArgument_behind {argument : String} {given after : Given}
    (reads : readArgument none argument given = .ok (.next after)) (free : after.has entry.1 = false) :
    given.has entry.1 = false ∧
      readArgument none argument (given.behind entry) = .ok (.next (after.behind entry)) := by
  unfold readArgument at reads ⊢
  cases shape : Shape.of argument with
  | endOfOptions =>
    simp only [shape] at reads
    split at reads <;> cases reads
  | long word =>
    simp only [shape] at reads ⊢
    exact readLong_behind reads free
  | short letters =>
    simp only [shape] at reads ⊢
    exact readShort_behind reads free
  | plain =>
    obtain ⟨checked, last⟩ := given
    simp only [shape] at reads ⊢
    rcases last with _ | ⟨slot, _ | text⟩
    · cases reads
    · cases reads
      exact ⟨free, rfl⟩
    · cases reads

theorem readFlag_stop {level : Level} {slot : Slot} {given : Given} {request : Request}
    (reads : readFlag level slot given = .ok (.stop request)) (invocation : Invocation) :
    request ≠ .run invocation := by
  obtain ⟨values, _, run⟩ := bind_ok reads
  rintro rfl
  cases slot
  case help => cases run
  case version => cases run
  all_goals
    obtain ⟨filled, _, run⟩ := bind_ok run
    cases run

theorem readLong_stop {level : Level} {word : List Char} {given : Given} {request : Request}
    (reads : readLong level word given = .ok (.stop request)) (invocation : Invocation) :
    request ≠ .run invocation := by
  unfold readLong at reads
  simp only at reads
  split at reads
  · cases reads
  split at reads
  · obtain ⟨next, _, same⟩ := map_ok reads
    cases same
  split at reads
  · cases reads
  · exact readFlag_stop reads invocation

theorem readShort_stop {level : Level} {letters : List Char} {given : Given} {request : Request}
    (reads : readShort level letters given = .ok (.stop request)) (invocation : Invocation) :
    request ≠ .run invocation := by
  induction letters generalizing given with
  | nil => cases reads
  | cons letter letters ih =>
    unfold readShort at reads
    split at reads
    · cases reads
    split at reads
    · obtain ⟨next, _, same⟩ := map_ok reads
      cases same
    obtain ⟨step, run, others⟩ := bind_ok reads
    cases step with
    | next middle => exact ih others
    | words => cases others
    | stop =>
      cases others
      exact readFlag_stop run invocation

theorem readArgument_stop {level : Level} {argument : String} {given : Given} {request : Request}
    (reads : readArgument level argument given = .ok (.stop request)) (invocation : Invocation) :
    request ≠ .run invocation := by
  unfold readArgument at reads
  cases shape : Shape.of argument with
  | endOfOptions =>
    simp only [shape] at reads
    split at reads <;> cases reads
  | long word =>
    simp only [shape] at reads
    exact readLong_stop reads invocation
  | short letters =>
    simp only [shape] at reads
    exact readShort_stop reads invocation
  | plain =>
    simp only [shape] at reads
    split at reads
    · cases reads
    · obtain ⟨next, _, same⟩ := map_ok reads
      cases same

theorem readCommand_stop {command : Command} {arguments : List String} {given : Given}
    {request : Request} (reads : readCommand command arguments given = .ok (.inl request))
    (invocation : Invocation) : request ≠ .run invocation := by
  induction arguments generalizing given with
  | nil =>
    obtain ⟨values, _, same⟩ := map_ok reads
    cases same
  | cons argument arguments ih =>
    obtain ⟨step, run, others⟩ := bind_ok reads
    cases step with
    | next middle => exact ih others
    | words middle =>
      obtain ⟨last, _, others⟩ := bind_ok others
      obtain ⟨values, _, same⟩ := map_ok others
      cases same
    | stop =>
      cases others
      exact readArgument_stop run invocation

theorem helpRequest_stop {arguments : List String} {request : Request}
    (reads : helpRequest arguments = .ok request) (invocation : Invocation) :
    request ≠ .run invocation := by
  rintro rfl
  unfold helpRequest at reads
  split at reads
  · cases reads
  split at reads
  · cases reads
  · split at reads <;> cases reads
  · cases reads

/-- The flag joins what else is given before the command, and nothing else changes. -/
theorem readProgram_behind {arguments : List String} {given : Given} {invocation : Invocation}
    (reads : readProgram arguments given = .ok (.run invocation)) (quiet : invocation.verbose = false) :
    given.has .verbose = false ∧ readProgram arguments (given.behind (.verbose, "")) =
      .ok (.run { invocation with verbose := true }) := by
  induction arguments generalizing given with
  | nil => cases reads
  | cons argument arguments ih =>
    have waiting : (given.behind (.verbose, "")).waiting = given.waiting := rfl
    rw [readProgram] at reads ⊢
    simp only [waiting] at reads ⊢
    split at reads
    · rename_i command _
      obtain ⟨result, inner, run⟩ := bind_ok reads
      cases result with
      | inl request =>
        cases run
        exact absurd rfl (readCommand_stop inner invocation)
      | inr after =>
        obtain ⟨task, work, run⟩ := bind_ok run
        obtain ⟨before, settles, run⟩ := bind_ok run
        cases run
        have silent := Bool.or_eq_false_iff.mp quiet
        obtain ⟨first, settles'⟩ := @Given.settle_behind (.verbose, "") _ _ settles silent.1
        refine ⟨first, ?_⟩
        rw [inner]
        simp only [bind, Except.bind, work, settles', pure, Except.pure]
        rfl
    · split at reads
      · exact absurd rfl (helpRequest_stop reads invocation)
      · rename_i other
        obtain ⟨step, run, others⟩ := bind_ok reads
        cases step with
        | words => cases others
        | stop =>
          cases others
          exact absurd rfl (readArgument_stop run invocation)
        | next middle =>
          obtain ⟨free, others'⟩ := ih others
          obtain ⟨first, run'⟩ := @readArgument_behind (.verbose, "") _ _ _ run free
          refine ⟨first, ?_⟩
          rw [if_neg other, run']
          exact others'

/-- Asked for in front, the log is shown; what is run stays the same. -/
theorem read_verbose {arguments : List String} {invocation : Invocation}
    (reads : read arguments = .ok (.run invocation)) (quiet : invocation.verbose = false) :
    read ("--verbose" :: arguments) = .ok (.run { invocation with verbose := true }) := by
  have flag : readArgument none "--verbose" .start =
      .ok (.next (Given.start.behind (.verbose, ""))) := rfl
  rw [read, readProgram_option arguments (by decide) flag]
  exact (readProgram_behind reads quiet).2

end TokenScan.Arguments
