import TokenScan.Arguments.Values

/-! Reading the command line. Options stand before or after the command, flags of one letter may
be run together, and a value may be attached to its option or follow it. A request for help ends
the reading; it is heard only if all that was checked before it was in order. -/
namespace TokenScan.Arguments

inductive Step where
  | next (given : Given)
  /-- All arguments that follow are words, whatever they look like. -/
  | words (given : Given)
  | stop (request : Request)

def Level.page : Level → Page
  | none => .program
  | some command => .command command

/-- A flag takes effect at once. -/
def readFlag (level : Level) (slot : Slot) (given : Given) : Except UsageFault Step := do
  let values ← given.settle
  match slot with
  | .help => return .stop (.help level.page)
  | .version => return .stop .version
  | _ => return .next ⟨← values.add slot "", none⟩

/-- An attached value is checked at once, a detached one later. -/
def readValued (slot : Slot) (attached : Option String) (given : Given) : Except UsageFault Given := do
  let values ← given.settle
  match attached with
  | some text => return ⟨← values.add slot text, none⟩
  | none => return ⟨values, some (slot, none)⟩

def splitAtEquals (word : List Char) : String × Option String :=
  match word.dropWhile (· != '=') with
  | [] => (String.ofList word, none)
  | _ :: value => (String.ofList (word.takeWhile (· != '=')), some (String.ofList value))

def readLong (level : Level) (word : List Char) (given : Given) : Except UsageFault Step :=
  let (name, attached) := splitAtEquals word
  match level.slots.find? fun slot => slot.long? == some name with
  | none => .error (.unknownOption name)
  | some slot =>
    if slot.takesValue then .next <$> readValued slot attached given
    else if attached.isSome then .error (.surplusValue name)
    else readFlag level slot given

def attachedValue : List Char → Option String
  | [] => none
  | '=' :: text => some (String.ofList text)
  | text => some (String.ofList text)

/-- Options of one letter each. The first one that takes a value takes the rest of the word. -/
def readShort (level : Level) : List Char → Given → Except UsageFault Step
  | [], given => .ok (.next given)
  | letter :: letters, given =>
    match level.slots.find? fun slot => slot.short? == some letter with
    | none => .error (.unknownOption letter.toString)
    | some slot =>
      if slot.takesValue then .next <$> readValued slot (attachedValue letters) given
      else do
        match ← readFlag level slot given with
        | .next given => readShort level letters given
        | other => return other

/-- The shape of an argument. A single dash is a word like any other. -/
inductive Shape where
  | endOfOptions
  | long (word : List Char)
  | short (letters : List Char)
  | plain

def Shape.of (argument : String) : Shape :=
  match argument.toList with
  | ['-', '-'] => .endOfOptions
  | '-' :: '-' :: word => .long word
  | '-' :: letter :: letters => .short (letter :: letters)
  | _ => .plain

/-- A word that is no value of an option. Only the list of tokens takes one, its file. -/
def readWord (level : Level) (word : String) (given : Given) : Except UsageFault Given :=
  match level with
  | none => .error (.unknownCommand word)
  | some .session => .error (.surplusArgument word)
  | some .tokens =>
    if given.has .file then .error (.surplusArgument word)
    else do return ⟨← given.settle, some (.file, some word)⟩

def readArgument (level : Level) (argument : String) (given : Given) : Except UsageFault Step :=
  match Shape.of argument with
  | .endOfOptions => if given.waiting then .error .missingValue else .ok (.words given)
  | .long word => readLong level word given
  | .short letters => readShort level letters given
  | .plain =>
    match given.last with
    | some (slot, none) => .ok (.next ⟨given.checked, some (slot, some argument)⟩)
    | _ => .next <$> readWord level argument given

def readWords (level : Level) : List String → Given → Except UsageFault Given
  | [], given => .ok given
  | word :: words, given => do readWords level words (← readWord level word given)

/-- What follows a command: a request that ends the reading, or the values given for it. -/
def readCommand (command : Command) : List String → Given → Except UsageFault (Request ⊕ Values)
  | [], given => .inr <$> given.settle
  | argument :: arguments, given => do
    match ← readArgument (some command) argument given with
    | .next given => readCommand command arguments given
    | .words given => .inr <$> (← readWords (some command) arguments given).settle
    | .stop request => return .inl request

def Values.supply (values : Values) : Except UsageFault Supply :=
  match values.get? .source, values.get? .file with
  | some _, some _ => .error .twoInputs
  | some text, none => .ok (.source text)
  | none, some path => .ok (.file path)
  | none, none => .ok .standardInput

def Command.task (command : Command) (values : Values) : Except UsageFault Task :=
  match command with
  | .session => .ok .session
  | .tokens => do
    return .tokens (← values.supply) ((values.get? .format).bind Format.ofName?)
      (values.has .locations)

/-- Options that stand before and after the command: a path given after it is the one used. -/
def invocation (before after : Values) (task : Task) : Invocation :=
  ⟨before.has .verbose || after.has .verbose, after.get? .config <|> before.get? .config, task⟩

def helpRequest : List String → Except UsageFault Request
  | [] => .ok (.help .program)
  | word :: words =>
    match words, Command.ofName? word with
    | [], some command => .ok (.help (.command command))
    | [], none => if word = "help" then .ok (.help .help) else .error (.unknownCommand word)
    | surplus :: _, _ => .error (.unknownCommand surplus)

/-- What stands before the command is checked in full only after what follows it. -/
def readProgram : List String → Given → Except UsageFault Request
  | [], _ => .error .missingCommand
  | argument :: arguments, given =>
    let command := if given.waiting then none else Command.ofName? argument
    match command with
    | some command => do
      match ← readCommand command arguments .start with
      | .inl request => return request
      | .inr after =>
        let task ← command.task after
        return .run (invocation (← given.settle) after task)
    | none =>
      if argument = "help" ∧ !given.waiting then helpRequest arguments
      else do
        match ← readArgument none argument given with
        | .next given => readProgram arguments given
        | .words _ => throw .missingCommand
        | .stop request => return request

def read (arguments : List String) : Except UsageFault Request := readProgram arguments .start

end TokenScan.Arguments
