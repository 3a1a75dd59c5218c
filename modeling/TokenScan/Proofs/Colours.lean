import TokenScan.Program
import TokenScan.Proofs.Bare
import TokenScan.Proofs.Refusals

/-! Colour only decorates. A run says the same with colours as without them, as long as no escape
character comes in from outside: then there is none in what is said, and the styles are all that can
be taken out of it. A configuration document that is refused can still bring one in, since it may
spell the character by its code point. -/
namespace TokenScan

namespace Complaint

/-- No escape character is in what it names, nor in the reason that it gives. -/
def Bare : Complaint → Prop
  | .unreadableSettings path fault | .unreadableFile path fault =>
    Text.Bare path ∧ Text.Bare fault.message
  | .invalidSettings path refusal => Text.Bare path ∧ Text.Bare refusal
  | .unreadableInput fault => Text.Bare fault.message

theorem Bare.message {complaint : Complaint} (bare : complaint.Bare) :
    Text.Bare complaint.message := by
  cases complaint
  all_goals
    unfold Complaint.message
    simp only [Text.bare_append, Text.bare_toString]
  case unreadableSettings => exact ⟨⟨⟨by decide, bare.1⟩, by decide⟩, bare.2⟩
  case invalidSettings => exact ⟨⟨⟨by decide, bare.1⟩, by decide⟩, bare.2⟩
  case unreadableFile => exact ⟨⟨⟨by decide, bare.1⟩, by decide⟩, bare.2⟩
  case unreadableInput => exact ⟨by decide, bare⟩

theorem Bare.report {complaint : Complaint} (bare : complaint.Bare) : complaint.report.Bare := by
  have said := (Styled.bare_of .plain complaint.message).mpr bare.message
  exact List.forall_mem_singleton.mpr (bare_errorLine said)

/-- Only the word in front of a complaint is styled. -/
theorem sameWords (complaint : Complaint) (verbose coloured : Bool) :
    (complaint.report.answer verbose coloured).SameWords (complaint.report.answer verbose false) := by
  have front : Styled.Bare (.of .redBold "error" ++ ↑": ") := by decide
  have stderr (coloured : Bool) : (complaint.report.answer verbose coloured).stderr =
      Styled.render coloured (.of .redBold "error" ++ ↑": ") ++ (complaint.message ++ "\n") := by
    simp [report, Report.answer, Emission.stderr, errorLine, Span.render, String.append_assoc]
  refine ⟨rfl, rfl, ?_⟩
  rw [stderr, stderr]
  exact Styled.unstyled_render_append front coloured _

end Complaint

namespace Program

open Arguments

/-- No escape character comes in with what the run reads, nor with how a line of a document that has
none is pointed at. -/
structure BareInputs (surroundings : Surroundings) (arguments : List String)
    (invocation : Invocation) : Prop where
  arguments : ∀ argument ∈ arguments, Text.Bare argument
  standardInput : needsInput invocation = true →
    UInt8.ofNat escape.toNat ∉ surroundings.standardInput.data
  files : ∀ path ∈ paths invocation, ∀ contents, surroundings.look path = .ok contents →
    UInt8.ofNat escape.toNat ∉ contents.data
  faults : ∀ path ∈ paths invocation, ∀ fault, surroundings.look path = .error fault →
    Text.Bare fault.message
  pointer : ∀ document misfit, Text.Bare document →
    Text.Bare (surroundings.pointer document (.misfit misfit))

/-- The document is refused in words with an escape character: the name of a format that it spells,
or what is wrong with a text that is no document. -/
inductive SpellsEscape (surroundings : Surroundings) (path : String) : Prop where
  | format {document name : String} : surroundings.look path >>= Input.decode = .ok document →
      Settings.read document = .error (.misfit (.unknownFormat name)) → ¬ Text.Bare name →
      SpellsEscape surroundings path
  | notDocument {document : String} : surroundings.look path >>= Input.decode = .ok document →
      Settings.read document = .error .notDocument →
      ¬ Text.Bare (surroundings.pointer document .notDocument) → SpellsEscape surroundings path

/-- The same surroundings, with colours forced or forbidden. -/
def dyed (surroundings : Surroundings) (coloured : Bool) : Surroundings :=
  { surroundings with coloured }

theorem bare_of_ends {arguments : List String} (bare : ∀ argument ∈ arguments, Text.Bare argument)
    {text : String} (ends : Ends arguments text) : Text.Bare text := by
  obtain ⟨argument, member, suffix⟩ := ends
  exact fun inside => bare argument member (suffix.subset inside)

theorem bare_listTokens (options : Listing.Options) {input : Input} (named : Text.Bare input.name)
    (bare : Text.Bare input.contents) : (listTokens options input).Bare := by
  have count : Text.Bare
      s!"Scanned {(scan input.contents).tokens.length} tokens from {input.name}" := by
    simp +decide [named]
  unfold listTokens
  split
  · exact List.forall_mem_singleton.mpr (bare_errorLine (by decide))
  · have shown := Scan.bare_shown bare options named
    refine List.forall_mem_append.mpr ⟨List.forall_mem_append.mpr ⟨Scan.bare_log bare, ?_⟩, shown⟩
    exact List.forall_mem_singleton.mpr count

variable {surroundings : Surroundings} {arguments : List String} {invocation : Invocation}

/-- Text that is read, or the reason why it is not, is bare. -/
structure BareRead (read : Except ReadFault String) : Prop where
  text : ∀ text, read = .ok text → Text.Bare text
  fault : ∀ fault, read = .error fault → Text.Bare fault.message

theorem bareRead_decode {bytes : ByteArray} (bare : UInt8.ofNat escape.toNat ∉ bytes.data) :
    BareRead (Input.decode bytes) := by
  constructor
  · exact fun text decodes inside => bare (Input.byte_of_mem decodes (by decide) inside)
  · intro fault fails
    unfold Input.decode at fails
    split at fails
    · cases fails
    · obtain rfl := Except.error.inj fails
      decide

theorem BareInputs.read (inputs : BareInputs surroundings arguments invocation) {path : String}
    (asked : path ∈ paths invocation) :
    BareRead (surroundings.look path >>= Input.decode) := by
  cases looks : surroundings.look path with
  | ok contents => exact bareRead_decode (inputs.files path asked contents looks)
  | error fault =>
    constructor
    · intro text read
      cases read
    · intro other same
      obtain rfl := Except.error.inj same
      exact inputs.faults path asked fault looks

theorem BareInputs.refusal (inputs : BareInputs surroundings arguments invocation) {path document : String}
    {error : Settings.Error} (found : surroundings.look path >>= Input.decode = .ok document)
    (bare : Text.Bare document) (refused : Settings.read document = .error error)
    (literal : ¬ SpellsEscape surroundings path) :
    Text.Bare (Program.refusal surroundings document error) := by
  refine (Text.bare_append _ _).mpr ?_
  cases error with
  | notDocument =>
    have plain : Text.Bare (surroundings.pointer document .notDocument) :=
      Decidable.byContradiction fun spelled => literal (.notDocument found refused spelled)
    exact ⟨plain, by decide⟩
  | misfit misfit =>
    have plain : ∀ name, misfit = .unknownFormat name → Text.Bare name := by
      rintro name rfl
      exact Decidable.byContradiction fun spelled => literal (.format found refused spelled)
    have message := Settings.bare_message_of_read refused plain
    exact ⟨inputs.pointer document misfit bare, (Text.bare_append _ _).mpr ⟨message, by decide⟩⟩

theorem BareInputs.settingsAt (inputs : BareInputs surroundings arguments invocation) {path : String}
    {complaint : Complaint} (asked : path ∈ paths invocation) (bare : Text.Bare path)
    (literal : ¬ SpellsEscape surroundings path)
    (fails : Program.settingsAt surroundings path = .error complaint) : complaint.Bare := by
  have read := inputs.read asked
  unfold Program.settingsAt at fails
  split at fails
  · rename_i fault unread
    obtain rfl := Except.error.inj fails
    exact ⟨bare, read.fault fault unread⟩
  · rename_i document found
    split at fails
    · rename_i error refused
      obtain rfl := Except.error.inj fails
      exact ⟨bare, inputs.refusal found (read.text document found) refused literal⟩
    · cases fails

theorem BareInputs.settings (inputs : BareInputs surroundings arguments invocation)
    (origin : invocation.From arguments)
    (literal : ¬ SpellsEscape surroundings (invocation.config.getD defaultSettingsPath))
    {complaint : Complaint}
    (fails : loadSettings surroundings invocation.config = .error complaint) :
    complaint.Bare := by
  have asked : invocation.config.getD defaultSettingsPath ∈ paths invocation :=
    List.mem_cons_self
  unfold loadSettings at fails
  cases config : invocation.config with
  | some path =>
    rw [config] at fails asked literal
    have named := bare_of_ends inputs.arguments (origin.config path config)
    exact inputs.settingsAt asked named literal fails
  | none =>
    rw [config] at fails asked literal
    simp only at fails
    split at fails
    · cases fails
    · cases fails
    · cases fails
    · exact inputs.settingsAt asked (by decide) literal fails

/-- What is listed, or the complaint that it cannot be read. A source text is an argument itself. -/
theorem BareInputs.supplied (inputs : BareInputs surroundings arguments invocation)
    (origin : invocation.From arguments) {supply : Supply} {format : Option Format}
    {locations : Bool} (task : invocation.task = .tokens supply format locations) :
    match readInput surroundings supply with
    | .ok input => Text.Bare input.name ∧ Text.Bare input.contents
    | .error complaint => complaint.Bare := by
  cases supply with
  | source text =>
    have given : Text.Bare text :=
      bare_of_ends inputs.arguments (origin.source text format locations task)
    have named : Text.Bare "<source>" := by decide
    exact ⟨named, given⟩
  | file path =>
    have asked : path ∈ paths invocation := by
      simp [paths, task]
    have named := bare_of_ends inputs.arguments (origin.file path format locations task)
    have read := inputs.read asked
    simp only [readInput]
    cases found : surroundings.look path >>= Input.decode with
    | ok contents => exact ⟨named, read.text contents found⟩
    | error fault => exact ⟨named, read.fault fault found⟩
  | standardInput =>
    have asked : needsInput invocation = true := by
      rw [needsInput, task]
    have named : Text.Bare "<stdin>" := by decide
    have read := bareRead_decode (inputs.standardInput asked)
    simp only [readInput]
    cases found : Input.decode surroundings.standardInput with
    | ok contents => exact ⟨named, read.text contents found⟩
    | error fault => exact read.fault fault found

theorem BareInputs.report (inputs : BareInputs surroundings arguments invocation)
    (origin : invocation.From arguments) (display : DisplaySettings) :
    (perform surroundings display invocation.task).Bare := by
  cases task : invocation.task with
  | session =>
    apply Session.bare_run
    apply inputs.standardInput
    rw [needsInput, task]
  | tokens supply format locations =>
    have supplied := inputs.supplied origin task
    simp only [perform]
    cases reads : readInput surroundings supply with
    | error complaint =>
      rw [reads] at supplied
      exact supplied.report
    | ok input =>
      rw [reads] at supplied
      exact bare_listTokens _ supplied.1 supplied.2

theorem loadSettings_dyed (coloured : Bool) (config : Option String) :
    loadSettings (dyed surroundings coloured) config = loadSettings surroundings config := by
  cases config <;> rfl

theorem readInput_dyed (coloured : Bool) (supply : Supply) :
    readInput (dyed surroundings coloured) supply = readInput surroundings supply := by
  cases supply <;> rfl

theorem perform_dyed (coloured : Bool) (display : DisplaySettings) (task : Task) :
    perform (dyed surroundings coloured) display task = perform surroundings display task := by
  cases task with
  | session => rfl
  | tokens supply format locations => simp only [perform, readInput_dyed]

/-- What is reported does not depend on colours; whether it is coloured depends on the settings. -/
theorem run_dyed (surroundings : Surroundings) (invocation : Invocation) :
    (∃ complaint, loadSettings surroundings invocation.config = .error complaint ∧
      ∀ coloured, run (dyed surroundings coloured) invocation =
        complaint.report.answer false coloured) ∨
    ∃ settings, loadSettings surroundings invocation.config = .ok settings ∧
      ∀ coloured, run (dyed surroundings coloured) invocation =
        Report.answer (invocation.verbose || settings.log.debug) (coloured && settings.display.coloured)
          ((perform surroundings settings.display invocation.task).behind [loggerReady]) := by
  cases loads : loadSettings surroundings invocation.config with
  | error complaint =>
    refine .inl ⟨complaint, rfl, fun coloured => ?_⟩
    simp only [run, loadSettings_dyed, loads]
    rfl
  | ok settings =>
    refine .inr ⟨settings, rfl, fun coloured => ?_⟩
    simp only [run, loadSettings_dyed, loads, perform_dyed]
    rfl

/-- What goes to standard output is the same with colours as without. -/
def PlainOutput (emissions : List Emission) : Prop :=
  ∀ emission ∈ emissions, ∀ coloured, emission.stdout coloured = emission.stdout false

theorem PlainOutput.answer {report : Report} (plain : PlainOutput report.emissions) (verbose : Bool)
    (coloured : Bool) : (report.answer verbose coloured).stdout = (report.answer verbose false).stdout :=
  congrArg String.join (List.map_congr_left fun emission member => plain emission member coloured)

theorem plainOutput_error {emission : Emission} (silent : emission.outputSpans = []) :
    ∀ coloured, emission.stdout coloured = emission.stdout false := by
  intro coloured
  rw [emission.stdout_eq, emission.stdout_eq, silent]
  rfl

/-- What is listed stands in plain spans, and nothing else is put out. -/
theorem plainOutput_shown (scan : Scan) (options : Listing.Options) (name source : String) :
    PlainOutput (scan.shown options name source).emissions := by
  have listed (listing : String) : ∀ coloured, (Emission.output ↑listing).stdout coloured =
      (Emission.output ↑listing).stdout false := by
    intro coloured
    rw [Emission.stdout, Emission.stdout, Styled.render_plain, Styled.render_plain]
  unfold Scan.shown
  split
  · exact List.forall_mem_singleton.mpr (plainOutput_error rfl)
  split
  · exact List.forall_mem_singleton.mpr (listed _)
  · exact List.forall_mem_cons.mpr
      ⟨listed _, List.forall_mem_singleton.mpr (plainOutput_error rfl)⟩

theorem plainOutput_listTokens (options : Listing.Options) (input : Input) :
    PlainOutput (listTokens options input).emissions := by
  have logged : PlainOutput (scan input.contents).log :=
    List.forall_mem_map.mpr fun record _ => plainOutput_error rfl
  unfold listTokens
  split
  · exact List.forall_mem_singleton.mpr (plainOutput_error rfl)
  · refine List.forall_mem_append.mpr ⟨List.forall_mem_append.mpr ⟨logged, ?_⟩, ?_⟩
    · exact List.forall_mem_singleton.mpr (plainOutput_error rfl)
    · exact plainOutput_shown _ options input.name input.contents

theorem plainOutput_complaint (complaint : Complaint) : PlainOutput complaint.report.emissions := by
  intro emission member
  obtain rfl := List.mem_singleton.mp member
  exact plainOutput_error rfl

theorem plainOutput_tokens (display : DisplaySettings) (supply : Supply) (format : Option Format)
    (locations : Bool) :
    PlainOutput (perform surroundings display (.tokens supply format locations)).emissions := by
  simp only [perform]
  cases readInput surroundings supply with
  | error complaint => exact plainOutput_complaint complaint
  | ok input => exact plainOutput_listTokens _ input

theorem tokens_stdout {supply : Supply} {format : Option Format} {locations : Bool}
    (task : invocation.task = .tokens supply format locations) (coloured : Bool) :
    (run (dyed surroundings coloured) invocation).stdout =
      (run (dyed surroundings false) invocation).stdout := by
  rcases run_dyed surroundings invocation with ⟨complaint, _, runs⟩ | ⟨settings, _, runs⟩
  · rw [runs, runs]
    exact (plainOutput_complaint complaint).answer _ _
  · have plain : PlainOutput
        ((perform surroundings settings.display invocation.task).behind [loggerReady]).emissions := by
      rw [task]
      exact List.forall_mem_cons.mpr
        ⟨plainOutput_error rfl, plainOutput_tokens settings.display supply format locations⟩
    rw [runs, runs, Bool.false_and]
    exact plain.answer _ _

theorem BareInputs.performed (inputs : BareInputs surroundings arguments invocation)
    (origin : invocation.From arguments) (display : DisplaySettings) :
    ((perform surroundings display invocation.task).behind [loggerReady]).Bare :=
  List.forall_mem_append.mpr
    ⟨List.forall_mem_singleton.mpr (by decide), inputs.report origin display⟩

theorem BareInputs.sameWords (inputs : BareInputs surroundings arguments invocation)
    (origin : invocation.From arguments) (coloured : Bool) :
    (run (dyed surroundings coloured) invocation).SameWords
      (run (dyed surroundings false) invocation) := by
  rcases run_dyed surroundings invocation with ⟨complaint, _, runs⟩ | ⟨settings, _, runs⟩
  · rw [runs, runs]
    exact complaint.sameWords _ _
  · rw [runs, runs, Bool.false_and]
    exact (inputs.performed origin settings.display).sameWords _ _

theorem BareInputs.decorates (inputs : BareInputs surroundings arguments invocation)
    (origin : invocation.From arguments)
    (literal : ¬ SpellsEscape surroundings (invocation.config.getD defaultSettingsPath))
    (coloured : Bool) :
    (run (dyed surroundings coloured) invocation).Decorates
      (run (dyed surroundings false) invocation) := by
  rcases run_dyed surroundings invocation with ⟨complaint, fails, runs⟩ | ⟨settings, _, runs⟩
  · rw [runs, runs]
    exact (inputs.settings origin literal fails).report.decorates _ _
  · rw [runs, runs, Bool.false_and]
    exact (inputs.performed origin settings.display).decorates _ _

/-- The answer to a command line with colours forced, against that without. They are told apart by
more than their styles only if the document of the settings is refused for what it spells. -/
structure ColoursOnly (surroundings : Surroundings) (arguments : List String)
    (invocation : Invocation) (forced plain : Answer) : Prop where
  coloured : answer (dyed surroundings true) arguments = .ok forced
  uncoloured : answer (dyed surroundings false) arguments = .ok plain
  words : forced.SameWords plain
  decorates : ¬ SpellsEscape surroundings (invocation.config.getD defaultSettingsPath) →
    forced.Decorates plain
  listing : ∀ supply format locations, invocation.task = .tokens supply format locations →
    forced.stdout = plain.stdout
  switchedOff : ∀ settings, loadSettings surroundings invocation.config = .ok settings →
    settings.display.coloured = false → forced = plain

theorem BareInputs.coloursOnly (inputs : BareInputs surroundings arguments invocation)
    (reads : Arguments.read arguments = .ok (.run invocation)) :
    ColoursOnly surroundings arguments invocation (run (dyed surroundings true) invocation)
      (run (dyed surroundings false) invocation) := by
  constructor
  · rw [answer, reads]
    rfl
  · rw [answer, reads]
    rfl
  · exact inputs.sameWords (read_from reads) true
  · exact fun literal => inputs.decorates (read_from reads) literal true
  · exact fun supply format locations task => tokens_stdout task true
  · intro settings loads off
    rcases run_dyed surroundings invocation with ⟨complaint, fails, _⟩ | ⟨found, loads', runs⟩
    · rw [loads] at fails
      cases fails
    · rw [loads] at loads'
      obtain rfl := Except.ok.inj loads'
      rw [runs, runs, off, Bool.and_false, Bool.and_false]

end Program

/-- Colour only decorates: diagnostics about anything, and whole runs. -/
theorem colour_decorates :
    (∀ diagnostic : Diagnostic, diagnostic.Bare →
      Text.unstyled (diagnostic.render true) = diagnostic.render false ∧
      (diagnostic.render? true).map Text.unstyled = diagnostic.render? false) ∧
    ∀ surroundings arguments invocation, Arguments.read arguments = .ok (.run invocation) →
      Program.BareInputs surroundings arguments invocation →
      ∃ forced plain, Program.ColoursOnly surroundings arguments invocation forced plain := by
  constructor
  · exact fun diagnostic bare => bare.render
  · exact fun surroundings arguments invocation reads inputs => ⟨_, _, inputs.coloursOnly reads⟩

/-- Three characters marked, and a listing of nothing but blanks. -/
theorem colour_decorates_blanks :
    Text.unstyled (Diagnostic.render true ⟨"f", "a\nb\nc", ⟨⟨2, 1, 0⟩, ⟨5, 1, 3⟩, by decide⟩, "m", none⟩) =
      "error: m\n\n  | a\n2 | b\n  | ^~~ \n  | c\n\nIn f:2:1\n\n" ∧
    ∃ forced plain,
      Program.ColoursOnly ⟨ByteArray.empty, fun _ => .error .notFound, fun _ _ => "", false⟩
        ["tokens", "-e", " "] ⟨false, none, .tokens (.source " ") none false⟩ forced plain ∧
      forced.Decorates plain ∧
      forced = ⟨2, "", "\x1b[1;31merror\x1b[0m: \x1b[1mNo input provided!\x1b[0m\n"⟩ ∧
      plain = ⟨2, "", "error: No input provided!\n"⟩ := by
  have texts : Diagnostic.Bare ⟨"f", "a\nb\nc", ⟨⟨2, 1, 0⟩, ⟨5, 1, 3⟩, by decide⟩, "m", none⟩ :=
    ⟨by decide, by decide, by decide, by simp⟩
  have inputs : Program.BareInputs ⟨ByteArray.empty, fun _ => .error .notFound, fun _ _ => "", false⟩
      ["tokens", "-e", " "] ⟨false, none, .tokens (.source " ") none false⟩ := by
    refine ⟨by decide, by simp [Program.needsInput], ?_, ?_, fun _ _ _ => List.not_mem_nil⟩
    · rintro _ _ _ ⟨⟩
    · rintro _ _ _ ⟨⟩
      decide
  have literal : ¬ Program.SpellsEscape ⟨ByteArray.empty, fun _ => .error .notFound, fun _ _ => "", false⟩
      "lexa.toml" := by
    rintro (⟨⟨⟩⟩ | ⟨⟨⟩⟩)
  refine ⟨(colour_decorates.1 _ texts).1.trans (by decide +kernel), ?_⟩
  obtain ⟨forced, plain, only⟩ := colour_decorates.2 _ ["tokens", "-e", " "] _ rfl inputs
  refine ⟨forced, plain, only, only.decorates literal, ?_, ?_⟩
  · rw [← Except.ok.inj only.coloured]
    decide +kernel
  · rw [← Except.ok.inj only.uncoloured]
    decide +kernel

namespace Program

/-- A document that asks for a format whose name is spelled with an escape character. -/
def misspelled : Surroundings where
  standardInput := ByteArray.empty
  look _ := .ok "[display]\nformat = \"\\u001b[1m\"\n".toUTF8
  pointer _ _ := "TOML parse error at line 2, column 10\n  |\n2 | format = \"\\u001b[1m\"\n" ++
    "  |          ^^^^^^^^^^^\n"
  coloured := false

/-- The name stands in the refusal as it is, and what it spells is taken for a style. -/
theorem not_decorates_misspelled :
    BareInputs misspelled ["tokens", "-e", "x"] ⟨false, none, .tokens (.source "x") none false⟩ ∧
    ∃ forced plain, answer (dyed misspelled true) ["tokens", "-e", "x"] = .ok forced ∧
      answer (dyed misspelled false) ["tokens", "-e", "x"] = .ok plain ∧
      Text.unstyled forced.stderr ≠ plain.stderr := by
  constructor
  · refine ⟨by decide, by simp [needsInput], ?_, ?_, ?_⟩
    · rintro _ _ _ ⟨⟩
      decide +kernel
    · rintro _ _ _ ⟨⟩
    · simp +decide [misspelled]
  · exact ⟨_, _, rfl, rfl, by decide +kernel⟩

end Program

end TokenScan
