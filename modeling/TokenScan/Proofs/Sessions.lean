import Mathlib.Data.List.TakeWhile
import TokenScan.Proofs.Arguments
import TokenScan.Proofs.Diagnostics
import TokenScan.Proofs.Outcome

/-! Sessions come to one contribution for each line, in turn, up to the first line that leaves.
What a line contributes depends on the line and the options alone, and for a line that is scanned
it is what listing the tokens of that line as a source text of its own comes to. A line whose listing
is too wide to be written breaks the session off. -/
namespace TokenScan

namespace Report

theorem answer_append (code : Nat) (first second : List Emission) (verbose coloured : Bool) :
    Report.answer verbose coloured ⟨code, first ++ second⟩ =
      ⟨code, (Report.answer verbose coloured ⟨code, first⟩).stdout ++
          (Report.answer verbose coloured ⟨code, second⟩).stdout,
        (Report.answer verbose coloured ⟨code, first⟩).stderr ++
          (Report.answer verbose coloured ⟨code, second⟩).stderr⟩ := by
  simp [Report.answer]

theorem answer_flatMap {α : Type} (code : Nat) (parts : α → List Emission) (items : List α)
    (verbose coloured : Bool) : Report.answer verbose coloured ⟨code, items.flatMap parts⟩ =
      ⟨code,
        String.join (items.map fun item => (Report.answer verbose coloured ⟨0, parts item⟩).stdout),
        String.join (items.map fun item => (Report.answer verbose coloured ⟨0, parts item⟩).stderr)⟩ := by
  induction items with
  | nil => rfl
  | cons item items ih =>
    rw [List.flatMap_cons, answer_append, ih]
    simp [Report.answer]

end Report

/-- The first character other than a blank. -/
def Text.firstShown (text : String) : Option Char := text.toList.find? fun c => !isBlank c

/-- The two texts are one diagnostic, with one name in the place of the other. -/
def Diagnostic.Renamed (old new first second : String) : Prop :=
  ∃ (front : String) (place : Location),
    first = front ++ s!"\nIn {old}:{place.label}\n\n" ∧
    second = front ++ s!"\nIn {new}:{place.label}\n\n"

namespace Session

/-- What a line contributes to the two outputs of a session. -/
def contribution (options : Listing.Options) (coloured : Bool) (line : String) : Answer :=
  (respond options line).answer false coloured

def bannerText (coloured : Bool) : String :=
  "lexa 0.1.0, type " ++ Span.render coloured ⟨.bold, ".help"⟩ ++ " for help\n"

def helpText : String :=
  "  .help        Show this help message\n" ++
  "  .keywords    List the reserved words\n" ++
  "  .exit        Leave the REPL\n"

def keywordText : String := " ".intercalate (Keyword.all.map Keyword.spelling) ++ "\n"

def unknownText (coloured : Bool) (line : String) : String :=
  Span.render coloured ⟨.redBold, "error"⟩ ++ ": unknown command " ++ Text.trim line ++ ", try " ++
    Span.render coloured ⟨.bold, ".help"⟩ ++ "\n"

/-- What a line should contribute, told by its first character other than a blank. `listed` is
what listing the tokens of the line comes to. -/
structure Contributes (coloured : Bool) (listed : Answer) (line : String) (given : Answer) :
    Prop where
  blank : Text.firstShown line = none → given.stdout = "" ∧ given.stderr = ""
  scanned : ∀ c, Text.firstShown line = some c → c ≠ '.' → given.stdout = listed.stdout ∧
    (given.stderr = "" ∧ listed.stderr = "" ∧ listed.code = 0 ∨
      Diagnostic.Renamed "<source>" "<repl>" listed.stderr given.stderr ∧ listed.code = 1)
  help : Text.firstShown line = some '.' → Command.parse line = some .help →
    given.stdout = helpText ∧ given.stderr = ""
  keywords : Text.firstShown line = some '.' → Command.parse line = some .keywords →
    given.stdout = keywordText ∧ given.stderr = ""
  unknown : Text.firstShown line = some '.' → Command.parse line = none →
    given.stdout = "" ∧ given.stderr = unknownText coloured line

theorem firstShown_eq_none_iff {line : String} :
    Text.firstShown line = none ↔ Text.allBlank line = true := by
  simp [Text.firstShown, Text.allBlank]

theorem not_allBlank {line : String} {c : Char} (first : Text.firstShown line = some c) :
    ¬ Text.allBlank line = true := by
  rw [← firstShown_eq_none_iff, first]
  exact Option.some_ne_none c

theorem isCommandLine_iff {line : String} :
    isCommandLine line = true ↔ Text.firstShown line = some '.' := by
  have same : (Text.dropBlanks line.toList).head? = Text.firstShown line := by
    exact (List.find?_not_eq_head?_dropWhile Text.isBlank line.toList).symm
  rw [isCommandLine, same, beq_iff_eq]

theorem contribution_of_blank {line : String} (blank : Text.firstShown line = none)
    (options : Listing.Options) (coloured : Bool) :
    contribution options coloured line = ⟨0, "", ""⟩ := by
  rw [contribution, respond, if_pos (firstShown_eq_none_iff.mp blank)]
  rfl

theorem respond_of_scanned {line : String} {c : Char} (first : Text.firstShown line = some c)
    (plain : c ≠ '.') (options : Listing.Options) :
    respond options line = ((scan line).shown options "<repl>" line).behind (scan line).log := by
  have words : ¬ isCommandLine line = true := by
    rw [isCommandLine_iff, first]
    simpa using plain
  rw [respond, if_neg (not_allBlank first), if_neg words]

/-- A line that is scanned is listed as a text of its own would be. -/
theorem contribution_of_scanned {line : String} {c : Char} (first : Text.firstShown line = some c)
    (plain : c ≠ '.') (options : Listing.Options) (coloured : Bool) :
    contribution options coloured line =
      (Program.listTokens options ⟨"<repl>", line⟩).answer false coloured := by
  rw [Program.listTokens_shown (not_allBlank first), contribution, respond_of_scanned first plain]
  exact Report.answer_logs_append ..

theorem respond_of_command {line : String} (dot : Text.firstShown line = some '.')
    (options : Listing.Options) : respond options line =
      match Command.parse line with
      | some .help => ⟨0, [help]⟩
      | some .keywords => ⟨0, [keywords]⟩
      | some .exit => ⟨0, []⟩
      | none => ⟨0, [unknownCommand line]⟩ := by
  exact (if_neg (not_allBlank dot)).trans (if_pos (isCommandLine_iff.mpr dot))

theorem code_of_command {line : String} (dot : Text.firstShown line = some '.')
    (options : Listing.Options) : (respond options line).code = 0 := by
  rw [respond_of_command dot]
  cases Command.parse line with
  | none => rfl
  | some command => cases command <;> rfl

theorem exists_gap {line : String} {c : Char} (first : Text.firstShown line = some c) :
    ∃ gap rest, line.toList = gap ++ c :: rest ∧ Blank gap := by
  obtain ⟨_, gap, rest, parts, blank⟩ := List.find?_eq_some_iff_append.mp first
  refine ⟨gap, rest, parts, ?_⟩
  intro d member
  simpa using blank d member

/-- No lexeme begins with a dot, so a scan stops at the first character that is shown. -/
theorem scan_of_dot {line : String} {gap rest : List Char} (parts : line.toList = gap ++ '.' :: rest)
    (blank : Blank gap) : (scan line).tokens = [] ∧
      (scan line).failure = some ⟨Location.start.past gap, .unexpectedCharacter '.'⟩ := by
  have illegal : ¬ Legal '.' := by decide
  have stops : Scans .start line.toList []
      (some ⟨Location.start.past gap, .unexpectedCharacter '.'⟩) :=
    parts ▸ .unexpected blank illegal
  exact stops.scan_eq

/-- Only a line that is scanned gives a token that could be too wide. -/
theorem scanned_of_wide {options : Listing.Options} {line : String}
    (wide : Listing.Wide options (scan line).tokens) :
    ∃ c, Text.firstShown line = some c ∧ c ≠ '.' := by
  obtain ⟨_, _, token, among, _⟩ := id wide
  cases first : Text.firstShown line with
  | none => exact absurd wide (Program.not_wide_of_blank (firstShown_eq_none_iff.mp first) options)
  | some c =>
    refine ⟨c, rfl, ?_⟩
    rintro rfl
    obtain ⟨gap, rest, parts, blank⟩ := exists_gap first
    rw [(scan_of_dot parts blank).1] at among
    cases among

theorem breaks_iff {options : Listing.Options} {line : String} :
    breaks options line = true ↔ Listing.Wide options (scan line).tokens := by
  rw [breaks, beq_iff_eq]
  constructor
  · intro code
    by_contra fits
    cases first : Text.firstShown line with
    | none =>
      rw [respond, if_pos (firstShown_eq_none_iff.mp first)] at code
      cases code
    | some c =>
      by_cases dot : c = '.'
      · rw [code_of_command (dot ▸ first)] at code
        cases code
      · obtain ⟨listing, written⟩ := Listing.exists_render fits
        rw [respond_of_scanned first dot, Report.behind, Scan.shown, written] at code
        cases failed : (scan line).failure <;> simp [failed, brokenCode] at code
  · intro wide
    obtain ⟨c, first, plain⟩ := scanned_of_wide wide
    rw [respond_of_scanned first plain, Report.behind, Program.shown_of_wide wide]
    rfl

theorem contribution_of_wide {options : Listing.Options} {line : String}
    (wide : Listing.Wide options (scan line).tokens) (coloured : Bool) :
    contribution options coloured line = Program.broken := by
  obtain ⟨c, first, plain⟩ := scanned_of_wide wide
  rw [contribution_of_scanned first plain, Program.listTokens_of_wide wide]

end Session

/-- The name of a source shows in the last row of a diagnostic only. -/
theorem Diagnostic.ofFailure_renamed (coloured : Bool) (text : String) (failure : Failure)
    (old new : String) : Renamed old new ((ofFailure old text failure).render coloured)
      ((ofFailure new text failure).render coloured) := by
  refine ⟨(ofFailure old text failure).body.render coloured, failure.location, ?_, ?_⟩
  · exact render_eq _ _
  · exact render_eq _ _

theorem Program.outcome_renamed {text : String} (shown : ¬ Text.allBlank text = true)
    (coloured : Bool) (listing old new : String) :
    (outcome coloured new text listing).stdout = (outcome coloured old text listing).stdout ∧
    ((outcome coloured new text listing).stderr = "" ∧
        (outcome coloured old text listing).stderr = "" ∧
        (outcome coloured old text listing).code = 0 ∨
      Diagnostic.Renamed old new (outcome coloured old text listing).stderr
          (outcome coloured new text listing).stderr ∧
        (outcome coloured old text listing).code = 1) := by
  have found : ¬ ((scan text).tokens = [] ∧ (scan text).failure = none) :=
    fun empty => shown ((scan_empty_iff text).mp empty)
  unfold outcome
  cases failed : (scan text).failure with
  | some failure =>
    have renamed := Diagnostic.ofFailure_renamed coloured text failure old new
    cases (scan text).tokens <;> exact ⟨rfl, .inr ⟨renamed, rfl⟩⟩
  | none =>
    cases listed : (scan text).tokens with
    | nil => exact absurd ⟨listed, failed⟩ found
    | cons => exact ⟨rfl, .inl ⟨rfl, rfl, rfl⟩⟩

namespace Session

theorem answer_output (coloured : Bool) (styled : Styled) :
    Report.answer false coloured ⟨0, [.output styled]⟩ = ⟨0, styled.render coloured, ""⟩ := by
  simp [Report.answer, Emission.stdout, Emission.stderr]

theorem answer_unknownCommand (coloured : Bool) (line : String) :
    Report.answer false coloured ⟨0, [unknownCommand line]⟩ = ⟨0, "", unknownText coloured line⟩ := by
  have plain (text : String) : Span.render coloured ⟨.plain, text⟩ = text := by simp [Span.render]
  have lead : ": unknown command " = ": " ++ "unknown command " := by decide
  simp [Report.answer, Emission.stdout, Emission.stderr, unknownCommand, errorLine, unknownText, plain,
    lead, String.append_assoc]
  rfl

theorem help_eq : help = .output ↑helpText := by
  decide +kernel

theorem keywords_eq : keywords = .output ↑keywordText := rfl

theorem contribution_of_command {line : String} (dot : Text.firstShown line = some '.')
    (options : Listing.Options) (coloured : Bool) : contribution options coloured line =
      match Command.parse line with
      | some .help => ⟨0, helpText, ""⟩
      | some .keywords => ⟨0, keywordText, ""⟩
      | some .exit => ⟨0, "", ""⟩
      | none => ⟨0, "", unknownText coloured line⟩ := by
  rw [contribution, respond_of_command dot]
  cases Command.parse line with
  | none => exact answer_unknownCommand coloured line
  | some command =>
    cases command with
    | help => rw [help_eq, answer_output, Styled.render_plain]
    | keywords => rw [keywords_eq, answer_output, Styled.render_plain]
    | exit => rfl

section

variable {options : Listing.Options}

/-- Lines either all fit or have a first one that does not. -/
theorem fit_or_split (options : Listing.Options) (lines : List String) :
    (∀ line ∈ lines, ¬ Listing.Wide options (scan line).tokens) ∨
    ∃ front line rest, lines = front ++ line :: rest ∧
      (∀ earlier ∈ front, ¬ Listing.Wide options (scan earlier).tokens) ∧
      Listing.Wide options (scan line).tokens := by
  induction lines with
  | nil => exact .inl (by simp)
  | cons line rest ih =>
    by_cases wide : Listing.Wide options (scan line).tokens
    · exact .inr ⟨[], line, rest, rfl, by simp, wide⟩
    rcases ih with fits | ⟨front, later, behind, rfl, fits, wide'⟩
    · exact .inl (List.forall_mem_cons.mpr ⟨wide, fits⟩)
    · exact .inr ⟨line :: front, later, behind, rfl, List.forall_mem_cons.mpr ⟨wide, fits⟩, wide'⟩

/-- Lines that fit leave the session to those behind them. -/
theorem answered_append {first : List String}
    (fits : ∀ line ∈ first, ¬ Listing.Wide options (scan line).tokens) (others : List String) :
    answered options (first ++ others) = first ++ answered options others := by
  induction first with
  | nil => rfl
  | cons line rest ih =>
    obtain ⟨fit, later⟩ := List.forall_mem_cons.mp fits
    rw [List.cons_append, answered, if_neg (mt breaks_iff.mp fit), ih later]
    rfl

/-- No line is answered behind the first that does not fit. -/
theorem answered_split {front : List String} {line : String}
    (fits : ∀ earlier ∈ front, ¬ Listing.Wide options (scan earlier).tokens)
    (wide : Listing.Wide options (scan line).tokens) (rest : List String) :
    answered options (front ++ line :: rest) = front ++ [line] := by
  rw [answered_append fits, answered, if_pos (breaks_iff.mpr wide)]

/-- What lines come to, each in its turn, up to one that breaks the session. -/
def written (options : Listing.Options) (coloured : Bool) (lines : List String) : Answer :=
  let heard := answered options lines
  ⟨if heard.any (breaks options) then brokenCode else 0,
    String.join (heard.map fun line => (contribution options coloured line).stdout),
    String.join (heard.map fun line => (contribution options coloured line).stderr)⟩

theorem written_of_fits {lines : List String}
    (fits : ∀ line ∈ lines, ¬ Listing.Wide options (scan line).tokens) (coloured : Bool) :
    written options coloured lines =
      ⟨0, String.join (lines.map fun line => (contribution options coloured line).stdout),
        String.join (lines.map fun line => (contribution options coloured line).stderr)⟩ := by
  have heard : answered options lines = lines := by simpa [answered] using answered_append fits []
  have whole : ¬ lines.any (breaks options) = true := by simpa [breaks_iff] using fits
  rw [written, heard]
  simp only [if_neg whole]

theorem written_of_split {front : List String} {line : String}
    (fits : ∀ earlier ∈ front, ¬ Listing.Wide options (scan earlier).tokens)
    (wide : Listing.Wide options (scan line).tokens) (rest : List String) (coloured : Bool) :
    written options coloured (front ++ line :: rest) =
      ⟨101, String.join (front.map fun line => (contribution options coloured line).stdout),
        String.join (front.map fun line => (contribution options coloured line).stderr) ++
          "Formatting argument out of range\n"⟩ := by
  have some : (front ++ [line]).any (breaks options) = true := by simp [breaks_iff.mpr wide]
  rw [written, answered_split fits wide]
  simp [some, brokenCode, contribution_of_wide wide, Program.broken]

theorem written_append {first : List String}
    (fits : ∀ line ∈ first, ¬ Listing.Wide options (scan line).tokens) (coloured : Bool)
    (second : List String) : written options coloured (first ++ second) =
      ⟨(written options coloured second).code,
        (written options coloured first).stdout ++ (written options coloured second).stdout,
        (written options coloured first).stderr ++ (written options coloured second).stderr⟩ := by
  have whole : first.any (breaks options) = false := by simpa [breaks_iff] using fits
  rw [written_of_fits fits, written, answered_append fits]
  simp [written, whole]

/-- Nothing is heard of what stands behind lines that do not all fit. -/
theorem written_append_of_wide {first : List String}
    (wide : ∃ line ∈ first, Listing.Wide options (scan line).tokens) (coloured : Bool)
    (second : List String) : written options coloured (first ++ second) =
      written options coloured first := by
  rcases fit_or_split options first with fits | ⟨front, line, rest, rfl, fits, wide'⟩
  · obtain ⟨line, among, broad⟩ := wide
    exact absurd broad (fits line among)
  · rw [List.append_assoc, List.cons_append, written_of_split fits wide', written_of_split fits wide']

end

/-- The lines of a text before the first that leaves the session, and all from that one on. -/
structure Splits (text : String) (before after : List String) : Prop where
  cut : Text.Cut text.toList ((before ++ after).map String.toList)
  stays : ∀ line ∈ before, Command.parse line ≠ some .exit
  leaves : ∀ line, after.head? = some line → Command.parse line = some .exit

def linesOf (text : String) : List String := (Text.lines text.toList).map String.ofList

theorem linesOf_map_toList (text : String) :
    (linesOf text).map String.toList = Text.lines text.toList := by
  simp [linesOf, Function.comp_def]

theorem splits_entered (text : String) : ∃ after, Splits text (entered (linesOf text)) after := by
  refine ⟨(linesOf text).dropWhile fun line => Command.parse line != some .exit, ?_, ?_, ?_⟩
  · rw [entered, List.takeWhile_append_dropWhile, linesOf_map_toList]
    exact Text.cut_lines _
  · intro line member
    have stays := List.mem_takeWhile_imp member
    simpa using stays
  · intro line first
    have leaves := List.head?_dropWhile_not (fun line => Command.parse line != some .exit)
      (linesOf text)
    rw [first] at leaves
    simpa using leaves

theorem Splits.linesOf_eq {text : String} {before after : List String}
    (splits : Splits text before after) : linesOf text = before ++ after := by
  rw [linesOf, splits.cut.lines_eq, List.map_map]
  simp [Function.comp_def]

theorem Splits.entered_append {text : String} {before after : List String}
    (splits : Splits text before after) (others : List String) :
    entered (before ++ others) = before ++ entered others := by
  apply List.takeWhile_append_of_pos
  intro line member
  simpa using splits.stays line member

theorem Splits.entered_eq {text : String} {before after : List String}
    (splits : Splits text before after) : entered (linesOf text) = before := by
  have left : entered after = [] := by
    cases after with
    | nil => rfl
    | cons line others => simp [entered, splits.leaves line rfl]
  rw [splits.linesOf_eq, splits.entered_append, left, List.append_nil]

/-- Lines that are ended and do not leave come before those of any text behind them. -/
theorem Splits.entered_text_append {first : String} {before : List String}
    (splits : Splits first before []) (ended : Text.Ended first.toList) (second : String) :
    entered (linesOf (first ++ second)) = before ++ entered (linesOf second) := by
  have joined : linesOf (first ++ second) = linesOf first ++ linesOf second := by
    rw [linesOf, String.toList_append, Text.lines_append ended, List.map_append]
    rfl
  rw [joined, splits.linesOf_eq, List.append_nil, splits.entered_append]

theorem banner_answer (code : Nat) (coloured : Bool) :
    Report.answer false coloured ⟨code, [banner]⟩ = ⟨code, bannerText coloured, ""⟩ := by
  have output : banner.stdout coloured = bannerText coloured := by
    rw [banner, Emission.stdout, Styled.render_append, Styled.render_append, Styled.render_of,
      Styled.render_plain, Styled.render_plain]
    rfl
  have error : banner.stderr false coloured = "" := rfl
  simp [Report.answer, output, error]

theorem run_answer (options : Listing.Options) (coloured : Bool) (text : String) :
    (run options text.toUTF8).answer false coloured =
      ⟨(written options coloured (entered (linesOf text))).code,
        bannerText coloured ++ (written options coloured (entered (linesOf text))).stdout,
        (written options coloured (entered (linesOf text))).stderr⟩ := by
  have lines : Input.sessionLines text.toUTF8 = (linesOf text, true) := by
    rw [Input.sessionLines, Program.decode_toUTF8]
    rfl
  have answers (code : Nat) : Report.answer false coloured ⟨code, [banner] ++
        (answered options (entered (linesOf text))).flatMap fun line => (respond options line).emissions⟩ =
      ⟨code, bannerText coloured ++ (written options coloured (entered (linesOf text))).stdout,
        (written options coloured (entered (linesOf text))).stderr⟩ := by
    rw [Report.answer_append, Report.answer_flatMap, banner_answer]
    simp only [String.empty_append]
    rfl
  have farewell : Report.answer false coloured ⟨0, [leaving]⟩ = ⟨0, "", ""⟩ := by
    simp [Report.answer, Emission.stdout, Emission.stderr, leaving]
  rw [run, lines]
  simp only [Bool.true_or, if_true]
  split
  · rename_i broken
    rw [answers, written, if_pos broken]
  · rename_i whole
    rw [Report.answer_append, answers, farewell, written, if_neg whole]
    simp only [String.append_empty]

/-- What a line contributes is what it should. -/
theorem contributes {options : Listing.Options} {line listing : String}
    (written : Listing.render options (scan line).tokens = .ok listing) (coloured : Bool) :
    Contributes coloured (Program.outcome coloured "<source>" line listing) line
      (contribution options coloured line) := by
  constructor
  case blank =>
    intro blank
    rw [contribution_of_blank blank]
    exact ⟨rfl, rfl⟩
  case scanned =>
    intro c first plain
    rw [contribution_of_scanned first plain, Program.listTokens_answer written]
    exact Program.outcome_renamed (not_allBlank first) coloured listing "<source>" "<repl>"
  case help =>
    intro dot command
    rw [contribution_of_command dot, command]
    exact ⟨rfl, rfl⟩
  case keywords =>
    intro dot command
    rw [contribution_of_command dot, command]
    exact ⟨rfl, rfl⟩
  case unknown =>
    intro dot command
    rw [contribution_of_command dot, command]
    exact ⟨rfl, rfl⟩

end Session

namespace Program

open Arguments Session

/-- The settings are loaded, and they do not ask for the log. -/
structure Ready (surroundings : Surroundings) (config : Option String) (settings : Settings) :
    Prop where
  named : config ≠ some ""
  loaded : loadSettings surroundings config = .ok settings
  quiet : settings.log.debug = false

/-- The same, with a text on standard input. -/
def typing (surroundings : Surroundings) (text : String) : Surroundings :=
  { surroundings with standardInput := text.toUTF8 }

/-- The answer to a session over a text. -/
def session (surroundings : Surroundings) (config : Option String) (text : String) :
    Except UsageFault Answer :=
  answer (typing surroundings text) (configArguments config ++ ["repl"])

variable {surroundings : Surroundings} {config : Option String} {settings : Settings}

theorem loadSettings_typing (text : String) :
    loadSettings (typing surroundings text) config = loadSettings surroundings config := by
  cases config <;> rfl

theorem session_eq (ready : Ready surroundings config settings) (text : String) :
    session surroundings config text = .ok
      (Report.answer false (surroundings.coloured && settings.display.coloured)
        (Session.run ⟨settings.display.format, settings.display.locations⟩ text.toUTF8)) := by
  have loaded := (loadSettings_typing text).trans ready.loaded
  rw [session, answer, read_session ready.named]
  change Except.ok (run (typing surroundings text) ⟨false, config, .session⟩) = _
  simp only [run, loaded, perform, ready.quiet, Bool.or_false, loggerReady]
  exact congrArg Except.ok (Report.answer_log_cons ..)

/-- A line as a source text of its own, with the same settings. -/
theorem lists_line (ready : Ready surroundings config settings) (line : String) :
    Lists surroundings ⟨false, config, .tokens (.source line) none false⟩ settings none false
      "<source>" line :=
  ⟨ready.loaded, ⟨.source line, rfl, .source⟩, rfl, ready.quiet⟩

theorem tokens_of_line (ready : Ready surroundings config settings) (line : String) :
    answer surroundings (configArguments config ++ ["tokens", "--source=" ++ line]) =
      .ok (run surroundings ⟨false, config, .tokens (.source line) none false⟩) := by
  rw [answer, read_tokens ready.named]
  rfl

/-- A session comes to its banner and then to one contribution for each line before the first that
leaves it, unless one of these lines has a listing that is too wide to be written: the first such line
breaks it off. Any other line is answered as its listing would be, or as the command that it is. A text
with ended lines that never leaves can be cut off in front of another one; if it breaks the session
off, what follows it is not heard. -/
theorem session_by_lines {surroundings : Surroundings} {config : Option String} {settings : Settings}
    (ready : Ready surroundings config settings) :
    let options : Listing.Options := ⟨settings.display.format, settings.display.locations⟩
    let coloured := surroundings.coloured && settings.display.coloured
    (∀ text, ∃ before after, Splits text before after ∧
      ((∀ line ∈ before, ¬ Listing.Wide options (scan line).tokens) →
        session surroundings config text = .ok ⟨0,
          bannerText coloured ++
            String.join (before.map fun line => (contribution options coloured line).stdout),
          String.join (before.map fun line => (contribution options coloured line).stderr)⟩) ∧
      ∀ front line rest, before = front ++ line :: rest →
        (∀ earlier ∈ front, ¬ Listing.Wide options (scan earlier).tokens) →
        Listing.Wide options (scan line).tokens →
        session surroundings config text = .ok ⟨101,
          bannerText coloured ++
            String.join (front.map fun line => (contribution options coloured line).stdout),
          String.join (front.map fun line => (contribution options coloured line).stderr) ++
            "Formatting argument out of range\n"⟩) ∧
    (∀ line, ∃ listed,
      answer surroundings (configArguments config ++ ["tokens", "--source=" ++ line]) = .ok listed ∧
      (¬ Listing.Wide options (scan line).tokens →
        Contributes coloured listed line (contribution options coloured line)) ∧
      (Listing.Wide options (scan line).tokens →
        listed = broken ∧ contribution options coloured line = broken)) ∧
    ∀ first second before, Text.Ended first.toList → Splits first before [] →
      ((∀ line ∈ before, ¬ Listing.Wide options (scan line).tokens) → ∃ one other : Answer,
        session surroundings config first = .ok ⟨0, bannerText coloured ++ one.stdout, one.stderr⟩ ∧
        session surroundings config second =
          .ok ⟨other.code, bannerText coloured ++ other.stdout, other.stderr⟩ ∧
        session surroundings config (first ++ second) = .ok ⟨other.code,
          bannerText coloured ++ (one.stdout ++ other.stdout), one.stderr ++ other.stderr⟩) ∧
      ((∃ line ∈ before, Listing.Wide options (scan line).tokens) →
        session surroundings config (first ++ second) = session surroundings config first) := by
  intro options coloured
  have answered (text : String) : session surroundings config text = .ok
      ⟨(written options coloured (entered (linesOf text))).code,
        bannerText coloured ++ (written options coloured (entered (linesOf text))).stdout,
        (written options coloured (entered (linesOf text))).stderr⟩ := by
    rw [session_eq ready, run_answer]
  refine ⟨?_, ?_, ?_⟩
  · intro text
    obtain ⟨after, splits⟩ := splits_entered text
    refine ⟨_, after, splits, fun fits => ?_, fun front line rest parts fits wide => ?_⟩
    · rw [answered, written_of_fits fits]
    · rw [answered, parts, written_of_split fits wide]
  · intro line
    have lists := lists_line ready line
    refine ⟨_, tokens_of_line ready line, fun fits => ?_, fun wide => ?_⟩
    · obtain ⟨listing, rendered⟩ := Listing.exists_render fits
      rw [run_of_written lists rendered]
      exact contributes rendered coloured
    · exact ⟨run_of_wide lists wide, contribution_of_wide wide coloured⟩
  · intro first second before ended splits
    have parts : entered (linesOf (first ++ second)) = before ++ entered (linesOf second) :=
      splits.entered_text_append ended second
    refine ⟨fun fits => ?_, fun wide => ?_⟩
    · refine ⟨written options coloured before, written options coloured (entered (linesOf second)), ?_,
        answered second, ?_⟩
      · rw [answered, splits.entered_eq, written_of_fits fits]
      · rw [answered, parts, written_append fits]
    · rw [answered, answered, parts, splits.entered_eq, written_append_of_wide wide]

/-- A number, and a command behind it. -/
theorem splits_number (count : Nat) :
    Splits (Text.repeated '1' count ++ "\n.keywords\n") [Text.repeated '1' count, ".keywords"] [] := by
  have digits : (Text.repeated '1' count).toList = List.replicate count '1' := String.toList_ofList
  have trimmed : Text.trim (Text.repeated '1' count) = Text.repeated '1' count := by
    have shown : Text.isBlank '1' = false := by decide
    simp [Text.trim, Text.repeated, Text.dropBlanks, shown]
  have parse : Command.parse (Text.repeated '1' count) = none := by
    rw [Command.parse, trimmed, digits]
    cases count <;> rfl
  refine ⟨?_, ?_, by simp⟩
  · have plain : '\n' ∉ (Text.repeated '1' count).toList := by simp [digits]
    have whole : (Text.repeated '1' count).toList.getLast? ≠ some '\r' := by
      simp [digits, List.getLast?_replicate]
    have command : Text.Cut (".keywords".toList ++ '\n' :: []) [".keywords".toList] :=
      .feed (by decide) (by decide) .nothing
    rw [String.toList_append]
    exact .feed plain whole command
  · refine List.forall_mem_cons.mpr ⟨?_, by decide⟩
    simp [parse]

theorem session_of_number {count : Nat} (long : Text.widthLimit < count) :
    session (holding "lexa.toml" "[display]\nlocations = true\n") none
        (Text.repeated '1' count ++ "\n.keywords\n") =
      .ok ⟨101, "lexa 0.1.0, type .help for help\n", "Formatting argument out of range\n"⟩ := by
  have ready : Ready (holding "lexa.toml" "[display]\nlocations = true\n") none
      { display := { locations := true } } := by
    refine ⟨by simp, ?_, rfl⟩
    decide +kernel
  have broken := written_of_split (List.forall_mem_nil _) (wide_number long).2 [".keywords"] false
  rw [List.nil_append] at broken
  rw [session_eq ready]
  change Except.ok (Report.answer false false (Session.run ⟨.table, true⟩ _)) = _
  rw [run_answer, (splits_number count).entered_eq, broken]
  rfl

/-- A number that is scanned to its end breaks the session off, so that the command behind it is not
answered. -/
theorem session_of_wide_number :
    session (holding "lexa.toml" "[display]\nlocations = true\n") none
        (Text.repeated '1' 65536 ++ "\n.keywords\n") =
      .ok ⟨101, "lexa 0.1.0, type .help for help\n", "Formatting argument out of range\n"⟩ :=
  session_of_number (by decide)

/-- A line that cannot be scanned and a command, then one that leaves, and one behind it that is
not answered. -/
theorem session_of_four_lines :
    ∃ before after, Splits "x $\n .K\n.q\ny\n" before after ∧ before = ["x $", " .K"] ∧
      session (holding "lexa.toml" "[display]\nformat = \"plain\"\n") none "x $\n .K\n.q\ny\n" = .ok ⟨0,
        "lexa 0.1.0, type .help for help\nToken Type: IDENTIFIER, Value: x\n" ++
          "int float double char void if else while for return break continue switch case default " ++
          "struct class public private protected try catch throw const static true false\n",
        "error: Unexpected character: '$' at position 2\n\n1 | x $\n  |   ^ hint: " ++
          "only letters, digits, `\"`, `(`, `)`, `;` and the operators `+ - * / % = ! < >` are allowed" ++
          "\n\nIn <repl>:1:3\n\n"⟩ := by
  have ready : Ready (holding "lexa.toml" "[display]\nformat = \"plain\"\n") none
      { display := { format := .plain } } := by
    refine ⟨by simp, ?_, rfl⟩
    decide +kernel
  obtain ⟨before, after, splits, given, _⟩ := (session_by_lines ready).1 "x $\n .K\n.q\ny\n"
  obtain rfl : before = ["x $", " .K"] := splits.entered_eq.symm.trans (by decide +kernel)
  refine ⟨_, after, splits, rfl, (given (by simp [Listing.Wide])).trans ?_⟩
  decide +kernel

end Program

end TokenScan
