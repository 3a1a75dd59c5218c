import TokenScan.Arguments.Help
import TokenScan.Arguments.Reading
import TokenScan.Session
import TokenScan.Settings

/-! The program: settings, then the task, then the answer. A run is a function of the arguments
and of what it finds around it. -/
namespace TokenScan

structure Surroundings where
  standardInput : ByteArray
  look : String → Except ReadFault ByteArray
  /-- How the reader of documents points at what it refuses. What is wrong with a text that is no
  document is said here too, a misfit has its own message. -/
  pointer : String → Settings.Error → String
  coloured : Bool

inductive Complaint where
  | unreadableSettings (path : String) (fault : ReadFault)
  | invalidSettings (path refusal : String)
  | unreadableFile (path : String) (fault : ReadFault)
  | unreadableInput (fault : ReadFault)
  deriving DecidableEq, Repr

def Complaint.message : Complaint → String
  | .unreadableSettings path fault => s!"Failed to read config file {path}: {fault.message}"
  | .invalidSettings path refusal => s!"Invalid config file {path}: {refusal}"
  | .unreadableFile path fault => s!"Failed to read {path}: {fault.message}"
  | .unreadableInput fault => s!"Failed to read standard input: {fault.message}"

def Complaint.report (complaint : Complaint) : Report := ⟨2, [errorLine ↑complaint.message]⟩

namespace Program

open Arguments

def defaultSettingsPath : String := "lexa.toml"

/-- The words in which a document is refused. -/
def refusal (surroundings : Surroundings) (document : String) (error : Settings.Error) : String :=
  surroundings.pointer document error ++
    match error with
    | .notDocument => ""
    | .misfit misfit => misfit.message ++ "\n"

def settingsAt (surroundings : Surroundings) (path : String) : Except Complaint Settings :=
  match surroundings.look path >>= Input.decode with
  | .error fault => .error (.unreadableSettings path fault)
  | .ok document =>
    match Settings.read document with
    | .error error => .error (.invalidSettings path (refusal surroundings document error))
    | .ok settings => .ok settings

/-- Settings that nobody asked for may be missing; then there are the defaults. -/
def loadSettings (surroundings : Surroundings) : Option String → Except Complaint Settings
  | some path => settingsAt surroundings path
  | none =>
    match surroundings.look defaultSettingsPath with
    | .error .notFound | .error .notDirectory | .error .isDirectory => .ok {}
    | _ => settingsAt surroundings defaultSettingsPath

def readInput (surroundings : Surroundings) : Supply → Except Complaint Input
  | .source text => .ok (.ofSource text)
  | .file path =>
    match surroundings.look path >>= Input.decode with
    | .ok contents => .ok (.ofFile path contents)
    | .error fault => .error (.unreadableFile path fault)
  | .standardInput =>
    match Input.decode surroundings.standardInput with
    | .ok contents => .ok (.ofStandardInput contents)
    | .error fault => .error (.unreadableInput fault)

/-- The files that a run may ask for. -/
def paths (invocation : Invocation) : List String :=
  invocation.config.getD defaultSettingsPath ::
    match invocation.task with
    | .tokens (.file path) _ _ => [path]
    | _ => []

def needsInput (invocation : Invocation) : Bool :=
  match invocation.task with
  | .session | .tokens .standardInput _ _ => true
  | .tokens _ _ _ => false

/-- The listing of one input; its code tells whether the scan went through. -/
def listTokens (options : Listing.Options) (input : Input) : Report :=
  if input.isBlank then ⟨2, [errorLine (.of .bold "No input provided!")]⟩
  else
    let result := scan input.contents
    let count : Log.Record :=
      ⟨.info, .program, s!"Scanned {result.tokens.length} tokens from {input.name}"⟩
    (result.shown options input.name input.contents).behind (result.log ++ [.log count])

/-- Options on the command line add to those of the settings, the format replaces theirs. -/
def perform (surroundings : Surroundings) (display : DisplaySettings) : Task → Report
  | .session => Session.run ⟨display.format, display.locations⟩ surroundings.standardInput
  | .tokens supply format locations =>
    match readInput surroundings supply with
    | .error complaint => complaint.report
    | .ok input =>
      listTokens ⟨format.getD display.format, locations || display.locations⟩ input

def loggerReady : Emission := .log ⟨.debug, .logger, "Logger is set up at level TRACE"⟩

/-- Nothing is logged before the settings are known, and they may switch colours off but not
on. -/
def run (surroundings : Surroundings) (invocation : Invocation) : Answer :=
  match loadSettings surroundings invocation.config with
  | .error complaint => complaint.report.answer false surroundings.coloured
  | .ok settings =>
    let report := perform surroundings settings.display invocation.task
    (report.behind [loggerReady]).answer (invocation.verbose || settings.log.debug)
      (surroundings.coloured && settings.display.coloured)

def respond (surroundings : Surroundings) : Request → Answer
  | .help page => ⟨0, page.styled.render surroundings.coloured, ""⟩
  | .version => ⟨0, versionLine, ""⟩
  | .run invocation => run surroundings invocation

/-- The answer to a command line, or why it is none. -/
def answer (surroundings : Surroundings) (arguments : List String) : Except UsageFault Answer :=
  respond surroundings <$> Arguments.read arguments

end Program

end TokenScan
