import TokenScan.Program
import TokenScan.Proofs.Widths

/-! What listing the tokens of a text comes to: the code of the run and what it writes, told by
the scan of the text alone. Where the text comes from shows in its name only, and so only in a
diagnostic. A listing that is too wide to be written is the one thing that breaks a run off. -/
namespace TokenScan

theorem Text.trim_eq_empty_iff (text : String) : trim text = "" ↔ allBlank text = true := by
  have kept : (dropBlanks text.toList).all isBlank = true ↔ dropBlanks text.toList = [] := by
    constructor
    · intro blank
      cases left : dropBlanks text.toList with
      | nil => rfl
      | cons c rest =>
        have head : (text.toList.dropWhile isBlank).head? = some c := congrArg List.head? left
        have plain : isBlank c = false := Head.head?_dropWhile head
        simp [left, plain] at blank
    · intro empty
      rw [empty]
      rfl
  calc trim text = ""
    _ ↔ dropBlanks (dropBlanks text.toList).reverse = [] := by
      simp [trim, ← String.toList_inj]
    _ ↔ (dropBlanks text.toList).all isBlank = true := by
      rw [dropBlanks_eq_nil_iff, List.all_reverse]
    _ ↔ allBlank text = true := by
      rw [kept, dropBlanks_eq_nil_iff, allBlank]

/-- Skipping blanks finds nothing to scan exactly where trimming leaves nothing. -/
theorem scan_empty_iff (text : String) :
    (scan text).tokens = [] ∧ (scan text).failure = none ↔ Text.allBlank text = true := by
  constructor
  · rintro ⟨empty, finished⟩
    have scans := scan_scans text
    rw [empty, finished] at scans
    rw [Text.allBlank]
    generalize text.toList = chars at scans
    cases scans with
    | blank blank => exact List.all_eq_true.mpr blank
  · intro blank
    have blanks : Blank text.toList := List.all_eq_true.mp blank
    exact (Scans.blank blanks).scan_eq

theorem Report.answer_log_cons (code : Nat) (record : Log.Record) (emissions : List Emission)
    (coloured : Bool) : Report.answer false coloured ⟨code, .log record :: emissions⟩ =
      Report.answer false coloured ⟨code, emissions⟩ := by
  simp [Report.answer, Emission.stdout, Emission.stderr]

theorem Report.answer_logs_append (code : Nat) (records : List Log.Record)
    (emissions : List Emission) (coloured : Bool) :
    Report.answer false coloured ⟨code, records.map .log ++ emissions⟩ =
      Report.answer false coloured ⟨code, emissions⟩ := by
  induction records with
  | nil => rfl
  | cons record records ih => rw [List.map_cons, List.cons_append, answer_log_cons, ih]

/-- What is an error, or on record, is not on standard output. -/
theorem Report.stdout_eq_empty {report : Report} (verbose coloured : Bool)
    (silent : ∀ emission ∈ report.emissions, emission.stdout coloured = "") :
    (report.answer verbose coloured).stdout = "" := by
  obtain ⟨code, emissions⟩ := report
  simp only [Report.answer] at silent ⊢
  induction emissions with
  | nil => rfl
  | cons emission emissions ih =>
    have first := silent emission List.mem_cons_self
    have others := ih fun other member => silent other (List.mem_cons_of_mem _ member)
    rw [List.map_cons, String.join_cons, first, others]
    rfl

namespace Program

open Arguments

def noInput : Styled := .of .redBold "error" ++ ↑": " ++ .of .bold "No input provided!" ++ ↑"\n"

/-- What listing the tokens of a text should come to: tokens before a failure are listed too. -/
def outcome (coloured : Bool) (name text listing : String) : Answer :=
  match (scan text).tokens, (scan text).failure with
  | [], none => ⟨2, "", noInput.render coloured⟩
  | _, none => ⟨0, listing, ""⟩
  | _, some failure => ⟨1, listing, (Diagnostic.ofFailure name text failure).render coloured⟩

/-- What it comes to when there is no such listing. -/
def broken : Answer := ⟨101, "", "Formatting argument out of range\n"⟩

/-- The text is what a run reads under this name. -/
inductive Supplies (surroundings : Surroundings) (text : String) : Supply → String → Prop where
  | source : Supplies surroundings text (.source text) "<source>"
  | file {path : String} : surroundings.look path = .ok text.toUTF8 →
      Supplies surroundings text (.file path) path
  | standardInput : surroundings.standardInput = text.toUTF8 →
      Supplies surroundings text .standardInput "<stdin>"

/-- The settings are loaded, the text is supplied, and nobody asks for the log. -/
structure Lists (surroundings : Surroundings) (invocation : Invocation) (settings : Settings)
    (format : Option Format) (locations : Bool) (name text : String) : Prop where
  loaded : loadSettings surroundings invocation.config = .ok settings
  supplied : ∃ supply, invocation.task = .tokens supply format locations ∧
    Supplies surroundings text supply name
  quiet : invocation.verbose = false ∧ settings.log.debug = false

/-- A format on the command line comes before that of the settings, locations are shown if
either wants them. -/
def shownAs (settings : Settings) (format : Option Format) (locations : Bool) : Listing.Options :=
  ⟨format.getD settings.display.format, locations || settings.display.locations⟩

theorem decode_toUTF8 (text : String) : Input.decode text.toUTF8 = .ok text := by
  have decodes : String.fromUTF8? text.toUTF8 = some text := dif_pos text.isValidUTF8
  rw [Input.decode, decodes]

theorem readInput_of_supplies {surroundings : Surroundings} {text name : String} {supply : Supply}
    (supplies : Supplies surroundings text supply name) :
    readInput surroundings supply = .ok ⟨name, text⟩ := by
  cases supplies with
  | source => rfl
  | file found =>
    have contents : (surroundings.look name >>= Input.decode) = .ok text := by
      rw [found]
      exact decode_toUTF8 text
    rw [readInput, contents]
    rfl
  | standardInput given =>
    rw [readInput, given, decode_toUTF8]
    rfl

section

variable {options : Listing.Options} {text listing : String}

theorem not_wide_of_blank (blank : Text.allBlank text = true) (options : Listing.Options) :
    ¬ Listing.Wide options (scan text).tokens := by
  rintro ⟨_, _, token, member, _⟩
  rw [((scan_empty_iff text).mpr blank).1] at member
  cases member

theorem shown_of_wide (wide : Listing.Wide options (scan text).tokens) (name : String) :
    (scan text).shown options name text = Fault.wideColumn.report := by
  rw [Scan.shown, Listing.render_of_wide wide]

theorem answer_wide (coloured : Bool) : Fault.wideColumn.report.answer false coloured = broken := by
  rw [Fault.report, broken]
  simp [Report.answer, Emission.stdout, Emission.stderr, brokenCode, Fault.message, Span.render]

theorem answer_shown (written : Listing.render options (scan text).tokens = .ok listing) (name : String)
    (coloured : Bool) : ((scan text).shown options name text).answer false coloured =
      match (scan text).failure with
      | none => ⟨0, listing, ""⟩
      | some failure => ⟨1, listing, (Diagnostic.ofFailure name text failure).render coloured⟩ := by
  rw [Scan.shown, written]
  cases (scan text).failure with
  | none => simp [Report.answer, Emission.stdout, Emission.stderr, Span.render]
  | some failure =>
    simp [Report.answer, Emission.stdout, Emission.stderr, Span.render, Diagnostic.render]

/-- What has been logged does not show. -/
theorem listTokens_shown (shown : ¬ Text.allBlank text = true) (options : Listing.Options)
    (name : String) (coloured : Bool) : (listTokens options ⟨name, text⟩).answer false coloured =
      ((scan text).shown options name text).answer false coloured := by
  have scanned : ¬ (⟨name, text⟩ : Input).isBlank = true := shown
  rw [listTokens, if_neg scanned]
  simp only [Report.behind, Scan.log, List.append_assoc, List.singleton_append]
  rw [Report.answer_logs_append, Report.answer_log_cons]

theorem listTokens_of_wide (wide : Listing.Wide options (scan text).tokens) (name : String)
    (coloured : Bool) : (listTokens options ⟨name, text⟩).answer false coloured = broken := by
  have shown : ¬ Text.allBlank text = true := fun blank => not_wide_of_blank blank options wide
  rw [listTokens_shown shown, shown_of_wide wide, answer_wide]

theorem listTokens_answer (written : Listing.render options (scan text).tokens = .ok listing)
    (name : String) (coloured : Bool) :
    (listTokens options ⟨name, text⟩).answer false coloured = outcome coloured name text listing := by
  unfold outcome
  by_cases blank : Text.allBlank text = true
  · obtain ⟨empty, finished⟩ := (scan_empty_iff text).mpr blank
    have skipped : (⟨name, text⟩ : Input).isBlank = true := blank
    rw [listTokens, if_pos skipped, empty, finished]
    simp [Report.answer, Emission.stdout, Emission.stderr, errorLine, noInput]
  · have found : ¬ ((scan text).tokens = [] ∧ (scan text).failure = none) :=
      fun empty => blank ((scan_empty_iff text).mp empty)
    rw [listTokens_shown blank, answer_shown written]
    -- An empty list of tokens is an outcome of its own only without a failure.
    cases failed : (scan text).failure with
    | some failure => cases (scan text).tokens <;> rfl
    | none =>
      cases listed : (scan text).tokens with
      | nil => exact absurd ⟨listed, failed⟩ found
      | cons => rfl

end

variable {surroundings : Surroundings} {invocation : Invocation} {settings : Settings}
  {format : Option Format} {locations : Bool} {name text listing : String}

theorem run_of_lists (lists : Lists surroundings invocation settings format locations name text) :
    run surroundings invocation =
      (listTokens (shownAs settings format locations) ⟨name, text⟩).answer false
        (surroundings.coloured && settings.display.coloured) := by
  obtain ⟨loaded, ⟨supply, task, supplies⟩, verbose, debug⟩ := lists
  have performed : perform surroundings settings.display invocation.task =
      listTokens (shownAs settings format locations) ⟨name, text⟩ := by
    simp only [task, perform, readInput_of_supplies supplies]
    rfl
  simp only [run, loaded, performed, verbose, debug, Bool.or_false, loggerReady]
  exact Report.answer_log_cons ..

theorem run_of_wide (lists : Lists surroundings invocation settings format locations name text)
    (wide : Listing.Wide (shownAs settings format locations) (scan text).tokens) :
    run surroundings invocation = broken := by
  rw [run_of_lists lists, listTokens_of_wide wide]

theorem run_of_written (lists : Lists surroundings invocation settings format locations name text)
    (written : Listing.render (shownAs settings format locations) (scan text).tokens = .ok listing) :
    run surroundings invocation =
      outcome (surroundings.coloured && settings.display.coloured) name text listing := by
  rw [run_of_lists lists, listTokens_answer written]

/-- The name and the colours show on standard error only. -/
theorem outcome_congr (text listing : String) (coloured coloured' : Bool) (name name' : String) :
    (outcome coloured name text listing).code = (outcome coloured' name' text listing).code ∧
    (outcome coloured name text listing).stdout = (outcome coloured' name' text listing).stdout := by
  unfold outcome
  cases (scan text).failure with
  | some failure => cases (scan text).tokens <;> exact ⟨rfl, rfl⟩
  | none => cases (scan text).tokens <;> exact ⟨rfl, rfl⟩

theorem complaint_silent (complaint : Complaint) (coloured : Bool) :
    ∀ emission ∈ complaint.report.emissions, emission.stdout coloured = "" := by
  intro emission member
  obtain rfl := List.mem_singleton.mp member
  rfl

theorem shown_code_ne (result : Scan) (options : Listing.Options) (name source : String) :
    (result.shown options name source).code ≠ 2 := by
  unfold Scan.shown
  split
  · simp [Fault.report, brokenCode]
  · split <;> simp

/-- A listing is printed only if its code is not that of an error before it. -/
theorem listTokens_silent {options : Listing.Options} {input : Input}
    (code : (listTokens options input).code = 2) (coloured : Bool) :
    ∀ emission ∈ (listTokens options input).emissions, emission.stdout coloured = "" := by
  unfold listTokens at code ⊢
  split at code
  · rename_i blank
    rw [if_pos blank]
    intro emission member
    obtain rfl := List.mem_singleton.mp member
    rfl
  · exact absurd code (shown_code_ne _ _ _ _)

theorem tokens_silent {supply : Supply} (task : invocation.task = .tokens supply format locations)
    (code : (run surroundings invocation).code = 2) : (run surroundings invocation).stdout = "" := by
  unfold run at code ⊢
  cases loaded : loadSettings surroundings invocation.config with
  | error complaint => exact Report.stdout_eq_empty _ _ (complaint_silent complaint _)
  | ok settings =>
    simp only [loaded, task, perform] at code ⊢
    apply Report.stdout_eq_empty
    intro emission member
    rcases List.mem_cons.mp member with rfl | member
    · rfl
    cases given : readInput surroundings supply with
    | error complaint =>
      rw [given] at member
      exact complaint_silent complaint _ emission member
    | ok input =>
      rw [given] at code member
      exact listTokens_silent code _ emission member

theorem code_of_unreadable {complaint : Complaint} {supply : Supply}
    (task : invocation.task = .tokens supply format locations)
    (unreadable : loadSettings surroundings invocation.config = .error complaint ∨
      readInput surroundings supply = .error complaint) :
    (run surroundings invocation).code = 2 := by
  unfold run
  cases loaded : loadSettings surroundings invocation.config with
  | error complaint => rfl
  | ok settings =>
    rcases unreadable with failed | failed
    · cases loaded.symm.trans failed
    · simp only [task, perform, failed]
      rfl

/-- What a run over a text comes to, whichever way the text is supplied, and what a code of 2
says. It is what it should be unless the listing is too wide to be written. -/
theorem tokens_outcome (text : String) :
    (((scan text).tokens = [] ∧ (scan text).failure = none ↔ Text.trim text = "") ∧
      (Text.trim text = "" ↔ ∀ c ∈ text.toList, Text.isBlank c = true) ∧
      ∀ name, Input.isBlank ⟨name, text⟩ = true ↔ Text.trim text = "") ∧
    (∀ surroundings invocation settings format locations name,
      Lists surroundings invocation settings format locations name text →
      let options := shownAs settings format locations
      (¬ Listing.Wide options (scan text).tokens → ∃ listing,
        Listing.render options (scan text).tokens = .ok listing ∧
        run surroundings invocation =
          outcome (surroundings.coloured && settings.display.coloured) name text listing) ∧
      (Listing.Wide options (scan text).tokens → run surroundings invocation = broken)) ∧
    (∀ one other first second settings format locations name name',
      Lists one first settings format locations name text →
      Lists other second settings format locations name' text →
      (run one first).code = (run other second).code ∧
      (run one first).stdout = (run other second).stdout) ∧
    ∀ surroundings invocation supply format locations,
      invocation.task = .tokens supply format locations →
      ((run surroundings invocation).code = 2 → (run surroundings invocation).stdout = "") ∧
      ∀ complaint, loadSettings surroundings invocation.config = .error complaint ∨
        readInput surroundings supply = .error complaint → (run surroundings invocation).code = 2 := by
  refine ⟨?_, ?_, ?_, ?_⟩
  · rw [Text.trim_eq_empty_iff]
    exact ⟨scan_empty_iff text, List.all_eq_true, fun name => Iff.rfl⟩
  · intro surroundings invocation settings format locations name lists options
    refine ⟨fun fits => ?_, run_of_wide lists⟩
    obtain ⟨listing, written⟩ := Listing.exists_render fits
    exact ⟨listing, written, run_of_written lists written⟩
  · intro one other first second settings format locations name name' lists lists'
    by_cases wide : Listing.Wide (shownAs settings format locations) (scan text).tokens
    · rw [run_of_wide lists wide, run_of_wide lists' wide]
      exact ⟨rfl, rfl⟩
    · obtain ⟨listing, written⟩ := Listing.exists_render wide
      rw [run_of_written lists written, run_of_written lists' written]
      exact outcome_congr text listing _ _ name name'
  · intro surroundings invocation supply format locations task
    exact ⟨tokens_silent task, fun complaint => code_of_unreadable task⟩

/-- One file to be found, nothing on standard input, and no colours. -/
def holding (path text : String) : Surroundings where
  standardInput := ByteArray.empty
  look other := if other = path then .ok text.toUTF8 else .error .notFound
  pointer _ _ := ""
  coloured := false

/-- A number that is wider than the column for it would be. It is scanned to its end, and not listed. -/
theorem run_of_wide_number :
    ((scan (Text.repeated '1' 65536)).failure = none ∧ (scan (Text.repeated '1' 65536)).tokens ≠ []) ∧
    run (holding "a.c" "")
        ⟨false, none, .tokens (.source (Text.repeated '1' 65536)) (some .table) true⟩ =
      ⟨101, "", "Formatting argument out of range\n"⟩ := by
  obtain ⟨finished, wide⟩ := wide_number (by decide : Text.widthLimit < 65536)
  obtain ⟨_, _, token, among, _⟩ := id wide
  refine ⟨⟨finished, List.ne_nil_of_mem among⟩, ?_⟩
  have lists : Lists (holding "a.c" "")
      ⟨false, none, .tokens (.source (Text.repeated '1' 65536)) (some .table) true⟩ {} (some .table) true
      "<source>" (Text.repeated '1' 65536) := ⟨rfl, ⟨_, rfl, .source⟩, rfl, rfl⟩
  exact run_of_wide lists wide

/-- A file with a character that cannot be scanned, the same text from the command line, and a
file that is not there. -/
theorem tokens_outcome_of_file :
    run (holding "a.c" "x $") ⟨false, none, .tokens (.file "a.c") (some .plain) true⟩ =
      ⟨1, "Token Type: IDENTIFIER, Value: x, Location: 1:1\n",
        "error: Unexpected character: '$' at position 2\n\n1 | x $\n  |   ^ hint: " ++
          "only letters, digits, `\"`, `(`, `)`, `;` and the operators `+ - * / % = ! < >` are allowed" ++
          "\n\nIn a.c:1:3\n\n"⟩ ∧
    (run (holding "a.c" "x $") ⟨false, none, .tokens (.source "x $") (some .plain) true⟩).stdout =
      "Token Type: IDENTIFIER, Value: x, Location: 1:1\n" ∧
    (run (holding "a.c" "x $") ⟨false, none, .tokens (.file "b.c") none false⟩).stdout = "" := by
  have file : Lists (holding "a.c" "x $") ⟨false, none, .tokens (.file "a.c") (some .plain) true⟩
      {} (some .plain) true "a.c" "x $" := ⟨rfl, ⟨.file "a.c", rfl, .file rfl⟩, rfl, rfl⟩
  have source : Lists (holding "a.c" "x $") ⟨false, none, .tokens (.source "x $") (some .plain) true⟩
      {} (some .plain) true "<source>" "x $" := ⟨rfl, ⟨.source "x $", rfl, .source⟩, rfl, rfl⟩
  obtain ⟨_, outcomes, same, failed⟩ := tokens_outcome "x $"
  have fits : ¬ Listing.Wide (shownAs {} (some .plain) true) (scan "x $").tokens := by decide +kernel
  obtain ⟨listing, written, listed⟩ := (outcomes _ _ _ _ _ _ file).1 fits
  obtain rfl : "Token Type: IDENTIFIER, Value: x, Location: 1:1\n" = listing := by
    have plain : Listing.plain true (scan "x $").tokens =
        "Token Type: IDENTIFIER, Value: x, Location: 1:1\n" := by decide +kernel
    exact plain.symm.trans (Except.ok.inj written)
  obtain ⟨silent, unreadable⟩ := failed (holding "a.c" "x $")
    ⟨false, none, .tokens (.file "b.c") none false⟩ _ _ _ rfl
  refine ⟨listed.trans (by decide +kernel), ?_, silent (unreadable _ (.inr rfl))⟩
  rw [(same _ _ _ _ _ _ _ _ _ source file).2, listed]
  decide +kernel

end Program

end TokenScan
