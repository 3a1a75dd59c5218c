import TokenScan.Proofs.Sessions

/-! Whoever asks for the log gets it on standard error and changes nothing else, whether the
question is put on the command line, in the settings, or in both. What is put before each part of
standard error is told by the input alone. -/
namespace TokenScan

def loggerLine : String := "[DEBUG] cli/src/logger.rs: Logger is set up at level TRACE\n"

def leavingLine : String := "[DEBUG] cli/src/repl.rs: Leaving the REPL\n"

/-- One line for each token in turn, then one for the failure, if there is one. -/
def scanLines (text : String) : String :=
  String.join ((scan text).tokens.map fun token =>
    s!"[TRACE] lexa/src/lexer/scanner.rs: {token.label} at {token.start.label}\n") ++
  match (scan text).failure with
  | none => ""
  | some failure => s!"[DEBUG] lexa/src/lexer/scanner.rs: Scan failed: {failure.message}\n"

def countLine (input : Input) : String :=
  s!"[INFO] cli/src/main.rs: Scanned {(scan input.contents).tokens.length} tokens from {input.name}\n"

/-- Blank lines and commands are not scanned. -/
def Session.lineLog (line : String) : String :=
  match Text.firstShown line with
  | none | some '.' => ""
  | some _ => scanLines line

/-- A session without and with its log. The log of a line comes before what the line contributes;
only who leaves says so, and a session that is broken off says nothing more. -/
structure Session.Logged (options : Listing.Options) (coloured : Bool) (lines : List String)
    (low loud : Answer) : Prop where
  left : low.code = 0 →
    low.stderr = String.join (lines.map fun line => (contribution options coloured line).stderr) ∧
    loud.stderr = loggerLine ++ String.join (lines.map fun line =>
      lineLog line ++ (contribution options coloured line).stderr) ++ leavingLine
  broken : low.code ≠ 0 → ∃ complaint,
    low.stderr = String.join (lines.map fun line => (contribution options coloured line).stderr) ++
      complaint ∧
    loud.stderr = loggerLine ++ String.join (lines.map fun line =>
      lineLog line ++ (contribution options coloured line).stderr) ++ complaint

namespace Program

open Arguments

/-- Nothing is scanned of what cannot be read, or of blanks. -/
def inputLog : Except Complaint Input → String
  | .error _ => ""
  | .ok input => if input.isBlank then "" else scanLines input.contents ++ countLine input

/-- What a listing says before it says anything else. -/
def listingLog (surroundings : Surroundings) (config : Option String) (supply : Supply) : String :=
  match loadSettings surroundings config with
  | .error _ => ""
  | .ok _ => loggerLine ++ inputLog (readInput surroundings supply)

/-- The command line is accepted, for this run with its log. -/
def Asks (invocation : Invocation) (arguments : List String) : Prop :=
  Arguments.read arguments = .ok (.run { invocation with verbose := true })

/-- The same surroundings, but for settings that ask for the log and are otherwise the same. -/
structure Twin (surroundings twin : Surroundings) (invocation : Invocation) (settings : Settings) :
    Prop where
  loaded : loadSettings twin invocation.config = .ok { settings with log := { debug := true } }
  coloured : twin.coloured = surroundings.coloured
  standardInput : twin.standardInput = surroundings.standardInput
  supplied : ∀ supply format locations, invocation.task = .tokens supply format locations →
    readInput twin supply = readInput surroundings supply

/-- What a run answers to those who do not ask for the log, and to those who do. -/
structure Heard (surroundings : Surroundings) (invocation : Invocation) (low loud : Answer) :
    Prop where
  code : loud.code = low.code
  stdout : loud.stdout = low.stdout
  unloaded : ∀ complaint, loadSettings surroundings invocation.config = .error complaint → loud = low
  listing : ∀ supply format locations, invocation.task = .tokens supply format locations →
    loud.stderr = listingLog surroundings invocation.config supply ++ low.stderr
  session : ∀ settings, loadSettings surroundings invocation.config = .ok settings →
    invocation.task = .session →
    Session.Logged ⟨settings.display.format, settings.display.locations⟩
      (surroundings.coloured && settings.display.coloured)
      (Session.answered ⟨settings.display.format, settings.display.locations⟩
        (Session.entered (Input.sessionLines surroundings.standardInput).1)) low loud

end Program

/-- The same answer, with more in front on standard error. -/
def Answer.led (answer : Answer) (lead : String) : Answer :=
  { answer with stderr := lead ++ answer.stderr }

theorem Answer.led_led (answer : Answer) (first second : String) :
    (answer.led second).led first = answer.led (first ++ second) := by
  simp [led, String.append_assoc]

theorem Answer.led_empty (answer : Answer) : answer.led "" = answer := by
  simp [led]

namespace Report

theorem answer_of_unlogged {emissions : List Emission} (coloured : Bool) (code : Nat)
    (unlogged : ∀ emission ∈ emissions, ∀ record, emission ≠ .log record) :
    Report.answer true coloured ⟨code, emissions⟩ = Report.answer false coloured ⟨code, emissions⟩ := by
  have same : ∀ emission ∈ emissions,
      emission.stderr true coloured = emission.stderr false coloured := by
    intro emission member
    cases emission with
    | output | error => rfl
    | log record => exact absurd rfl (unlogged _ member record)
  rw [Report.answer, Report.answer, List.map_congr_left same]

theorem answer_log_verbose (code : Nat) (record : Log.Record) (emissions : List Emission)
    (coloured : Bool) : Report.answer true coloured ⟨code, .log record :: emissions⟩ =
      (Report.answer true coloured ⟨code, emissions⟩).led record.line := by
  simp [Report.answer, Emission.stdout, Emission.stderr, Answer.led]

theorem answer_logs_verbose (code : Nat) (records : List Log.Record) (emissions : List Emission)
    (coloured : Bool) : Report.answer true coloured ⟨code, records.map .log ++ emissions⟩ =
      (Report.answer true coloured ⟨code, emissions⟩).led
        (String.join (records.map Log.Record.line)) := by
  induction records with
  | nil => exact (Answer.led_empty _).symm
  | cons record records ih =>
    rw [List.map_cons, List.cons_append, answer_log_verbose, ih, Answer.led_led, List.map_cons,
      String.join_cons]

end Report

theorem Log.Record.line_eq {level : Level} {origin : Origin} {lead : String}
    (leads : "[" ++ level.name ++ "] " ++ origin.path ++ ": " = lead) (text : String) :
    line ⟨level, origin, text⟩ = lead ++ text ++ "\n" := by
  rw [← leads]
  rfl

theorem Token.record_line (token : Token) : token.record.line =
    s!"[TRACE] lexa/src/lexer/scanner.rs: {token.label} at {token.start.label}\n" := by
  have lead : "[" ++ Log.Level.trace.name ++ "] " ++ Log.Origin.scanner.path ++ ": " =
      "[TRACE] lexa/src/lexer/scanner.rs: " := by decide
  rw [record, Log.Record.line_eq lead]
  simp only [String.append_assoc]
  rfl

theorem Failure.record_line (failure : Failure) : failure.record.line =
    s!"[DEBUG] lexa/src/lexer/scanner.rs: Scan failed: {failure.message}\n" := by
  have lead : "[" ++ Log.Level.debug.name ++ "] " ++ Log.Origin.scanner.path ++ ": " =
      "[DEBUG] lexa/src/lexer/scanner.rs: " := by decide
  have joined : "[DEBUG] lexa/src/lexer/scanner.rs: Scan failed: " =
      "[DEBUG] lexa/src/lexer/scanner.rs: " ++ "Scan failed: " := by decide
  rw [record, Log.Record.line_eq lead, joined]
  simp only [String.append_assoc, toString]

theorem record_lines (text : String) :
    String.join ((scan text).records.map Log.Record.line) = scanLines text := by
  have tokens : (scan text).tokens.map (Log.Record.line ∘ Token.record) = (scan text).tokens.map
      fun token => s!"[TRACE] lexa/src/lexer/scanner.rs: {token.label} at {token.start.label}\n" :=
    List.map_congr_left fun token _ => token.record_line
  rw [scan_records, scanLines, List.map_append, String.join_append, List.map_map, tokens]
  cases (scan text).failure with
  | none => rfl
  | some failure =>
    rw [Option.toList_some, List.map_singleton, List.map_singleton, failure.record_line]
    simp

theorem shown_unlogged (scan : Scan) (options : Listing.Options) (name source : String) :
    ∀ emission ∈ (scan.shown options name source).emissions, ∀ record, emission ≠ .log record := by
  intro emission member record
  unfold Scan.shown at member
  split at member
  · obtain rfl := List.mem_singleton.mp member
    simp
  · split at member
    · obtain rfl := List.mem_singleton.mp member
      simp
    · rcases List.mem_cons.mp member with rfl | member
      · simp
      · obtain rfl := List.mem_singleton.mp member
        simp

namespace Program

open Arguments

theorem count_line (count name : String) :
    Log.Record.line ⟨.info, .program, "Scanned " ++ count ++ " tokens from " ++ name⟩ =
      "[INFO] cli/src/main.rs: Scanned " ++ count ++ " tokens from " ++ name ++ "\n" := by
  have lead : "[" ++ Log.Level.info.name ++ "] " ++ Log.Origin.program.path ++ ": " =
      "[INFO] cli/src/main.rs: " := by decide
  have joined : "[INFO] cli/src/main.rs: Scanned " = "[INFO] cli/src/main.rs: " ++ "Scanned " := by
    decide
  rw [Log.Record.line_eq lead]
  simp only [joined, String.append_assoc]

theorem listTokens_verbose (options : Listing.Options) (input : Input) (coloured : Bool) :
    (listTokens options input).answer true coloured =
      ((listTokens options input).answer false coloured).led (inputLog (.ok input)) := by
  unfold listTokens
  simp only [inputLog]
  by_cases blank : input.isBlank = true
  · rw [if_pos blank, if_pos blank, Answer.led_empty]
    apply Report.answer_of_unlogged
    intro emission member
    obtain rfl := List.mem_singleton.mp member
    simp [errorLine]
  · have shown := shown_unlogged (scan input.contents) options input.name input.contents
    have count := count_line (toString (scan input.contents).tokens.length) input.name
    simp only [if_neg blank, Report.behind, Scan.log, List.append_assoc, List.singleton_append]
    rw [Report.answer_logs_append, Report.answer_log_cons, Report.answer_logs_verbose,
      Report.answer_log_verbose, Answer.led_led, record_lines,
      Report.answer_of_unlogged _ _ shown]
    exact congrArg _ (congrArg _ count)

variable {surroundings : Surroundings}

theorem complaint_unlogged (complaint : Complaint) (coloured : Bool) :
    complaint.report.answer true coloured = complaint.report.answer false coloured := by
  apply Report.answer_of_unlogged
  intro emission member
  obtain rfl := List.mem_singleton.mp member
  simp [errorLine]

theorem tokens_verbose (display : DisplaySettings) (supply : Supply) (format : Option Format)
    (locations coloured : Bool) :
    let report := perform surroundings display (.tokens supply format locations)
    report.answer true coloured =
      (report.answer false coloured).led (inputLog (readInput surroundings supply)) := by
  simp only [perform]
  cases readInput surroundings supply with
  | error complaint =>
    rw [inputLog, Answer.led_empty]
    exact complaint_unlogged complaint coloured
  | ok input => exact listTokens_verbose _ input coloured

end Program

namespace Session

theorem command_unlogged {line : String} (dot : Text.firstShown line = some '.')
    (options : Listing.Options) :
    ∀ emission ∈ (respond options line).emissions, ∀ record, emission ≠ .log record := by
  intro emission member record
  rw [respond_of_command dot] at member
  cases command : Command.parse line with
  | none =>
    rw [command] at member
    obtain rfl := List.mem_singleton.mp member
    simp [unknownCommand, errorLine]
  | some word =>
    rw [command] at member
    cases word with
    | exit => cases member
    | help =>
      obtain rfl := List.mem_singleton.mp member
      simp [help]
    | keywords =>
      obtain rfl := List.mem_singleton.mp member
      simp [keywords]

/-- The log of a line is that of its scan, if it is scanned. -/
theorem respond_verbose (options : Listing.Options) (coloured : Bool) (line : String) :
    (respond options line).answer true coloured =
      (contribution options coloured line).led (lineLog line) := by
  unfold lineLog
  split
  · rename_i blank
    rw [contribution, respond, if_pos (firstShown_eq_none_iff.mp blank), Answer.led_empty]
    rfl
  · rename_i dot
    rw [contribution, Answer.led_empty]
    exact Report.answer_of_unlogged coloured _ (command_unlogged dot options)
  · rename_i c plain first
    rw [contribution, respond_of_scanned first plain, Report.behind, Scan.log,
      Report.answer_logs_append, Report.answer_logs_verbose, record_lines, Report.answer_of_unlogged]
    exact shown_unlogged _ _ _ _

/-- A session is broken off, or it ends by leaving it, or with an input that is not text. -/
theorem run_cases (options : Listing.Options) (input : ByteArray) :
    let answers := [banner] ++ (answered options (entered (Input.sessionLines input).1)).flatMap
      fun line => (respond options line).emissions
    run options input = ⟨brokenCode, answers⟩ ∨ run options input = ⟨0, answers ++ [leaving]⟩ ∨
      ∃ message, run options input = ⟨2, answers ++ [errorLine message]⟩ := by
  unfold run
  simp only
  split
  · exact .inl rfl
  · split
    · exact .inr (.inl rfl)
    · exact .inr (.inr ⟨_, rfl⟩)

theorem answers_stderr (verbose coloured : Bool) (code : Nat) (options : Listing.Options)
    (lines : List String) (last : List Emission) :
    (Report.answer verbose coloured ⟨code, [banner] ++
        (lines.flatMap fun line => (respond options line).emissions) ++ last⟩).stderr =
      String.join (lines.map fun line => ((respond options line).answer verbose coloured).stderr) ++
        String.join (last.map (Emission.stderr verbose coloured)) := by
  rw [Report.answer_append, Report.answer_append, Report.answer_flatMap]
  simp [Report.answer, Emission.stderr, banner]

theorem leaving_stderr (coloured : Bool) :
    leaving.stderr false coloured = "" ∧ leaving.stderr true coloured = leavingLine := by
  have lead : "[" ++ Log.Level.debug.name ++ "] " ++ Log.Origin.session.path ++ ": " =
      "[DEBUG] cli/src/repl.rs: " := by decide
  refine ⟨rfl, (Log.Record.line_eq lead "Leaving the REPL").trans ?_⟩
  decide

theorem run_verbose (options : Listing.Options) (coloured : Bool) (input : ByteArray) :
    Logged options coloured (answered options (entered (Input.sessionLines input).1))
      ((run options input).answer false coloured)
      (((run options input).answer true coloured).led loggerLine) := by
  have loud : (answered options (entered (Input.sessionLines input).1)).map (fun line =>
      ((respond options line).answer true coloured).stderr) =
      (answered options (entered (Input.sessionLines input).1)).map fun line =>
        lineLog line ++ (contribution options coloured line).stderr :=
    List.map_congr_left fun line _ => congrArg Answer.stderr (respond_verbose options coloured line)
  rcases run_cases options input with broken | left | ⟨message, complains⟩
  · rw [broken, ← List.append_nil ([banner] ++ _)]
    refine ⟨fun code => ?_, fun _ => ⟨"", ?_, ?_⟩⟩
    · cases code
    · exact answers_stderr false coloured brokenCode options _ []
    · rw [Answer.led, answers_stderr, loud, String.append_assoc]
      rfl
  · rw [left]
    refine ⟨fun _ => ⟨?_, ?_⟩, fun code => absurd rfl code⟩
    · rw [answers_stderr, List.map_singleton, (leaving_stderr coloured).1]
      exact String.append_empty
    · rw [Answer.led, answers_stderr, List.map_singleton, (leaving_stderr coloured).2, loud,
        String.append_assoc]
      rfl
  · rw [complains]
    refine ⟨fun code => ?_, fun _ => ⟨(errorLine message).stderr false coloured, ?_, ?_⟩⟩
    · cases code
    · exact answers_stderr false coloured 2 options _ [errorLine message]
    · rw [Answer.led, answers_stderr, loud, String.append_assoc]
      rfl

end Session

namespace Program

open Arguments

variable {surroundings : Surroundings} {invocation : Invocation}

theorem run_loud {settings : Settings}
    (loaded : loadSettings surroundings invocation.config = .ok settings)
    (loud : (invocation.verbose || settings.log.debug) = true) : run surroundings invocation =
      ((perform surroundings settings.display invocation.task).answer true
        (surroundings.coloured && settings.display.coloured)).led loggerLine := by
  simp only [run, loaded, loud, loggerReady]
  exact Report.answer_log_verbose ..

theorem run_low {settings : Settings}
    (loaded : loadSettings surroundings invocation.config = .ok settings)
    (low : (invocation.verbose || settings.log.debug) = false) : run surroundings invocation =
      (perform surroundings settings.display invocation.task).answer false
        (surroundings.coloured && settings.display.coloured) := by
  simp only [run, loaded, low, loggerReady]
  exact Report.answer_log_cons ..

theorem perform_twin {twin : Surroundings} {settings : Settings}
    (twins : Twin surroundings twin invocation settings) (display : DisplaySettings) :
    perform twin display invocation.task = perform surroundings display invocation.task := by
  cases task : invocation.task with
  | session => rw [perform, perform, twins.standardInput]
  | tokens supply format locations =>
    rw [perform, perform, twins.supplied supply format locations task]

/-- A run that asks for the log against one that does not. -/
theorem heard_of_loaded {settings : Settings}
    (loaded : loadSettings surroundings invocation.config = .ok settings)
    (quiet : invocation.verbose = false) (unasked : settings.log.debug = false) :
    Heard surroundings invocation (run surroundings invocation)
      (run surroundings { invocation with verbose := true }) := by
  have low := run_low loaded (by rw [quiet, unasked]; rfl)
  have loud := @run_loud surroundings { invocation with verbose := true } settings loaded rfl
  rw [low, loud]
  constructor
  case code => rfl
  case stdout => rfl
  case unloaded =>
    intro complaint failed
    cases loaded.symm.trans failed
  case listing =>
    intro supply format locations task
    have verbose := @tokens_verbose surroundings settings.display supply format locations
      (surroundings.coloured && settings.display.coloured)
    simp only [task, listingLog, loaded]
    rw [verbose, Answer.led_led]
    rfl
  case session =>
    intro settings' loaded' task
    obtain rfl : settings = settings' := Except.ok.inj (loaded.symm.trans loaded')
    simp only [task, perform]
    exact Session.run_verbose _ _ _

theorem heard_of_unloaded {complaint : Complaint}
    (failed : loadSettings surroundings invocation.config = .error complaint) :
    Heard surroundings invocation (run surroundings invocation)
      (run surroundings { invocation with verbose := true }) := by
  have same : run surroundings { invocation with verbose := true } = run surroundings invocation := by
    simp only [run, failed]
  rw [same]
  constructor
  case code => rfl
  case stdout => rfl
  case unloaded => exact fun _ _ => rfl
  case listing =>
    intro supply format locations _
    simp [listingLog, failed]
  case session =>
    intro settings loaded
    cases failed.symm.trans loaded

/-- Settings that ask for the log say no more than the command line does. -/
theorem run_twin {twin : Surroundings} {settings : Settings}
    (loaded : loadSettings surroundings invocation.config = .ok settings)
    (twins : Twin surroundings twin invocation settings) (verbose : Bool) :
    run twin { invocation with verbose } = run surroundings { invocation with verbose := true } := by
  have loud := @run_loud twin { invocation with verbose } _ twins.loaded (Bool.or_true verbose)
  have asked := @run_loud surroundings { invocation with verbose := true } settings loaded rfl
  rw [loud, asked, perform_twin twins, twins.coloured]

/-- Asking for the log, in whatever way, adds its lines to standard error and does nothing else. On
the command line it can be asked for in front, or wherever else that is accepted. -/
theorem verbosity_adds_log {arguments : List String}
    (reads : Arguments.read arguments = .ok (.run invocation)) (quiet : invocation.verbose = false)
    (unasked : ∀ settings, loadSettings surroundings invocation.config = .ok settings →
      settings.log.debug = false) :
    Asks invocation ("--verbose" :: arguments) ∧
    ∃ low loud, answer surroundings arguments = .ok low ∧
      (∀ asking, Asks invocation asking → answer surroundings asking = .ok loud) ∧
      Heard surroundings invocation low loud ∧
      ∀ settings twin, loadSettings surroundings invocation.config = .ok settings →
        Twin surroundings twin invocation settings → answer twin arguments = .ok loud ∧
        ∀ asking, Asks invocation asking → answer twin asking = .ok loud := by
  have low (given : Surroundings) : answer given arguments = .ok (run given invocation) := by
    rw [answer, reads]
    rfl
  have loud (given : Surroundings) (asking : List String) (asks : Asks invocation asking) :
      answer given asking = .ok (run given { invocation with verbose := true }) := by
    rw [answer, asks]
    rfl
  refine ⟨read_verbose reads quiet, _, _, low surroundings, loud surroundings, ?_, ?_⟩
  · cases loaded : loadSettings surroundings invocation.config with
    | ok settings => exact heard_of_loaded loaded quiet (unasked settings loaded)
    | error complaint => exact heard_of_unloaded loaded
  · intro settings twin loaded twins
    constructor
    · exact (low twin).trans (congrArg Except.ok (run_twin loaded twins invocation.verbose))
    · intro asking asks
      exact (loud twin asking asks).trans (congrArg Except.ok (run_twin loaded twins true))

/-- A listing of a text that cannot be scanned to its end, with the log asked for by the settings
and by the command line. -/
theorem verbosity_adds_log_to_listing :
    ∃ low loud,
      answer (holding "lexa.toml" "[log]\ndebug = false\n") ["tokens", "--source=x $"] = .ok low ∧
      answer (holding "lexa.toml" "[log]\ndebug = false\n") ["--verbose", "tokens", "--source=x $"] =
        .ok loud ∧
      answer (holding "lexa.toml" "[log]\ndebug = false\n") ["tokens", "-v", "--source=x $"] =
        .ok loud ∧
      answer (holding "lexa.toml" "[log]\ndebug = true\n") ["tokens", "--source=x $"] = .ok loud ∧
      loud.stderr = "[DEBUG] cli/src/logger.rs: Logger is set up at level TRACE\n" ++
        "[TRACE] lexa/src/lexer/scanner.rs: IDENTIFIER(x) at 1:1\n" ++
        "[DEBUG] lexa/src/lexer/scanner.rs: Scan failed: Unexpected character: '$' at position 2\n" ++
        "[INFO] cli/src/main.rs: Scanned 1 tokens from <source>\n" ++ low.stderr := by
  have reads : Arguments.read ["tokens", "--source=x $"] =
      .ok (.run ⟨false, none, .tokens (.source "x $") none false⟩) := rfl
  have loaded : loadSettings (holding "lexa.toml" "[log]\ndebug = false\n") none = .ok {} := by
    decide +kernel
  have twins : Twin (holding "lexa.toml" "[log]\ndebug = false\n")
      (holding "lexa.toml" "[log]\ndebug = true\n")
      ⟨false, none, .tokens (.source "x $") none false⟩ {} := by
    refine ⟨by decide +kernel, rfl, rfl, fun supply format locations task => ?_⟩
    cases task
    rfl
  have unasked : ∀ settings, loadSettings (holding "lexa.toml" "[log]\ndebug = false\n") none =
      .ok settings → settings.log.debug = false := by
    intro settings loaded'
    obtain rfl := Except.ok.inj (loaded.symm.trans loaded')
    rfl
  obtain ⟨asks, low, loud, quiet, verbose, heard, twin⟩ := verbosity_adds_log reads rfl unasked
  refine ⟨low, loud, quiet, verbose _ asks, verbose _ rfl, (twin _ _ loaded twins).1, ?_⟩
  rw [heard.listing _ _ _ rfl]
  apply congrArg (· ++ low.stderr)
  decide +kernel

end Program

end TokenScan
