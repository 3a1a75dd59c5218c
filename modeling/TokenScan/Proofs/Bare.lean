import TokenScan.Proofs.JsonWritten
import TokenScan.Proofs.Styles
import TokenScan.Session

/-! What a run says of its source texts has no escape character unless they have one. A listing,
a log and a diagnostic hold pieces of the source and names, numbers and phrases of the program, and
none of these has one; a JSON document has none in any case. -/
namespace TokenScan

theorem Text.bare_flat {text : String} (bare : Bare text) : Bare (flat text) := by
  rw [flat, bare_ofList, List.mem_flatMap]
  rintro ⟨c, member, shown⟩
  have plain : c ≠ escape := fun same => bare (same ▸ member)
  iterate 3
    split at shown
    · exact absurd shown (by decide)
  exact plain (List.mem_singleton.mp shown).symm

theorem Text.bare_padded {text : String} (bare : Bare text) (width : Nat) :
    Bare (padded width text) := by
  simp [padded, bare]

theorem Kind.bare_name (kind : Kind) : Text.Bare kind.name := by
  cases kind <;> decide

namespace Json

/-- JSON has an escape of its own for the character, so no text brings it into a document. -/
theorem escape_not_mem_escaped (c : Char) : escape ∉ escaped c := by
  intro member
  unfold escaped at member
  iterate 7
    split at member
    · exact absurd member (by decide)
  split at member
  · simp [escape_ne_digitChar] at member
    exact absurd member (by decide)
  · rename_i shown
    obtain rfl := List.mem_singleton.mp member
    exact shown (by decide)

theorem bare_quoted (text : String) : Text.Bare (quoted text) := by
  rw [quoted, Text.bare_ofList, List.mem_append, List.mem_cons, List.mem_flatMap]
  rintro ((mark | ⟨c, _, inside⟩) | mark)
  · exact absurd mark (by decide)
  · exact escape_not_mem_escaped c inside
  · exact absurd mark (by decide)

theorem bare_further {α : Type} {newline : List Char} {part : α → List Char} {items : List α}
    (breaks : escape ∉ newline) (bare : ∀ item ∈ items, escape ∉ part item) :
    escape ∉ further newline part items := by
  rw [further, List.mem_flatMap]
  rintro ⟨item, member, inside⟩
  rcases List.mem_cons.mp inside with comma | inside
  · exact absurd comma (by decide)
  rcases List.mem_append.mp inside with broken | within
  · exact breaks broken
  · exact bare item member within

/-- A list of parts between its brackets, as arrays and objects both are. -/
theorem bare_parts {α : Type} {opening closing : Char} {newline back : List Char}
    {part : α → List Char} {item : α} {items : List α} (opens : escape ≠ opening)
    (closes : escape ≠ closing) (breaks : escape ∉ newline) (ends : escape ∉ back)
    (bare : ∀ other ∈ item :: items, escape ∉ part other) :
    escape ∉ opening :: (newline ++ (part item ++ (further newline part items ++ back)) ++ [closing]) := by
  have first := bare item List.mem_cons_self
  have others := bare_further breaks fun other member => bare other (List.mem_cons_of_mem _ member)
  simp [opens, closes, breaks, ends, first, others]

variable {layout : Layout}

/-- The induction is on the document; its parts stand one level deeper than it does. -/
theorem bare_body (newline : ∀ depth, Text.Bare (layout.newline depth))
    (colon : Text.Bare layout.colon) (document : Json) (depth : Nat) :
    escape ∉ body layout depth document := by
  induction document using Json.induction generalizing depth with
  | number value =>
    have parts : body layout depth (.number value) = value.repr.toList := by simp [body, pieces]
    rw [parts]
    exact Text.bare_repr value
  | text value =>
    have parts : body layout depth (.text value) = (quoted value).toList := by simp [body, pieces]
    rw [parts]
    exact bare_quoted value
  | array items each =>
    cases items with
    | nil => simp +decide [body, pieces]
    | cons item items =>
      rw [body_array]
      apply bare_parts (by decide) (by decide) (newline (depth + 1)) (newline depth)
      exact fun other member => each other member (depth + 1)
  | object fields each =>
    cases fields with
    | nil => simp +decide [body, pieces]
    | cons field fields =>
      rw [body_object]
      apply bare_parts (by decide) (by decide) (newline (depth + 1)) (newline depth)
      intro other member
      rw [fieldBody, List.mem_append, List.mem_append, not_or, not_or]
      exact ⟨bare_quoted other.1, colon, each other member (depth + 1)⟩

theorem bare_pretty (document : Json) : Text.Bare document.pretty := by
  have newline (depth : Nat) : Text.Bare (Layout.pretty.newline depth) := by
    simp +decide [Layout.pretty]
  exact bare_body newline (by decide) document 0

end Json

namespace Listing

variable {tokens : List Token}

theorem bare_tableRow {kind value location : String} (kindWidth valueWidth : Nat) (locations : Bool)
    (named : Text.Bare kind) (said : Text.Bare value) (placed : Text.Bare location) :
    Text.Bare (tableRow locations kindWidth valueWidth kind value location) := by
  cases locations <;> simp +decide [tableRow, Text.bare_padded, named, said, placed]

/-- Rows of a table with columns of any width. -/
theorem bare_tableRows (bare : ∀ token ∈ tokens, Text.Bare token.text) (locations : Bool)
    (kindWidth valueWidth : Nat) :
    ∀ row ∈ tableRows locations kindWidth valueWidth tokens, Text.Bare row := by
  have lines (width : Nat) : Text.Bare (Text.repeated '-' width) :=
    Text.bare_repeated (by decide) width
  refine List.forall_mem_cons.mpr ⟨?_, List.forall_mem_cons.mpr ⟨?_, List.forall_mem_map.mpr ?_⟩⟩
  · exact bare_tableRow _ _ _ (by decide) (by decide) (by decide)
  · exact bare_tableRow _ _ _ (lines _) (lines _) (lines _)
  · intro token among
    exact bare_tableRow _ _ _ token.kind.bare_name (Text.bare_flat (bare token among))
      token.start.bare_label

theorem bare_table (bare : ∀ token ∈ tokens, Text.Bare token.text) {locations : Bool} {output : String}
    (written : table locations tokens = .ok output) : Text.Bare output := by
  rw [eq_of_table written]
  apply Text.bare_join
  rintro _ member
  obtain ⟨row, among, rfl⟩ := List.mem_map.mp member
  exact (Text.bare_append _ _).mpr ⟨bare_tableRows bare _ _ _ row among, by decide⟩

theorem bare_lines (bare : ∀ token ∈ tokens, Text.Bare token.text) (locations : Bool) :
    Text.Bare (plain locations tokens) := by
  apply Text.bare_join
  rintro _ member
  obtain ⟨token, among, rfl⟩ := List.mem_map.mp member
  have named := token.kind.bare_name
  have said := Text.bare_flat (bare token among)
  cases locations <;> simp +decide [kindHeading, valueHeading, locationHeading, named, said]

theorem bare_render (bare : ∀ token ∈ tokens, Text.Bare token.text) {options : Options}
    {output : String} (written : render options tokens = .ok output) : Text.Bare output := by
  obtain ⟨format, locations⟩ := options
  cases format with
  | table => exact bare_table bare written
  | plain =>
    obtain rfl := Except.ok.inj written
    exact bare_lines bare locations
  | json =>
    obtain rfl := Except.ok.inj written
    exact (Text.bare_append _ _).mpr ⟨Json.bare_pretty _, by decide⟩

end Listing

section

variable {source : String}

theorem bare_of_mem_scan (bare : Text.Bare source) {token : Token}
    (scanned : token ∈ (scan source).tokens) : Text.Bare token.text :=
  fun inside => bare (mem_of_mem_token scanned inside)

theorem Reason.bare_message {reason : Reason}
    (plain : ∀ c, reason = .unexpectedCharacter c → c ≠ escape) : Text.Bare reason.message := by
  cases reason with
  | unterminatedString => decide
  | unexpectedCharacter c =>
    have lead : Text.Bare "Unexpected character: '" := by decide
    have shown : Text.Bare c.toString := by
      simpa [Text.Bare] using (plain c rfl).symm
    exact (Text.bare_append _ _).mpr ⟨(Text.bare_append _ _).mpr ⟨lead, shown⟩, by decide⟩

theorem bare_message (bare : Text.Bare source) {failure : Failure}
    (fails : (scan source).failure = some failure) : Text.Bare failure.message := by
  have reason : Text.Bare failure.reason.message := by
    apply Reason.bare_message
    rintro c unexpected rfl
    obtain ⟨place, reason⟩ := failure
    subst unexpected
    exact bare ((scan_scans source).mem_of_unexpected fails)
  have place : Text.Bare " at position " := by decide
  simp only [Failure.message, Text.bare_append, Text.bare_toString]
  exact ⟨⟨reason, place⟩, Text.bare_repr _⟩

theorem Token.bare_record {token : Token} (bare : Text.Bare token.text) :
    Text.Bare token.record.text := by
  have named := token.kind.bare_name
  have label : Text.Bare token.toLexeme.label := by
    unfold Lexeme.label
    split <;> simp +decide [named, bare]
  simp +decide [record, label]

theorem Scan.bare_log (bare : Text.Bare source) : ∀ emission ∈ (scan source).log, emission.Bare := by
  rintro _ member
  obtain ⟨record, recorded, rfl⟩ := List.mem_map.mp member
  rw [scan_records] at recorded
  rcases List.mem_append.mp recorded with told | told
  · obtain ⟨token, scanned, rfl⟩ := List.mem_map.mp told
    exact Token.bare_record (bare_of_mem_scan bare scanned)
  · obtain ⟨failure, fails, rfl⟩ := List.mem_map.mp told
    have message := bare_message bare (Option.mem_toList.mp fails)
    simp +decide [Emission.Bare, Failure.record, message]

theorem Fault.bare_report (fault : Fault) : fault.report.Bare := by
  have said : Text.Bare (fault.message ++ "\n") := by
    cases fault <;> decide
  exact List.forall_mem_singleton.mpr ((Styled.bare_of .plain _).mpr said)

theorem Scan.bare_shown (bare : Text.Bare source) (options : Listing.Options) {name : String}
    (named : Text.Bare name) : ((scan source).shown options name source).Bare := by
  unfold Scan.shown
  split
  · exact Fault.bare_report _
  rename_i listing written
  have listed := Listing.bare_render (fun token scanned => bare_of_mem_scan bare scanned) written
  have output : Emission.Bare (.output ↑listing) := (Styled.bare_of .plain _).mpr listed
  split
  · exact List.forall_mem_singleton.mpr output
  · rename_i failure fails
    have diagnostic : (Diagnostic.ofFailure name source failure).Bare := by
      refine ⟨named, bare, bare_message bare fails, ?_⟩
      rintro _ ⟨⟩
      unfold Failure.hint
      split <;> decide
    exact List.forall_mem_cons.mpr ⟨output, List.forall_mem_singleton.mpr diagnostic.styled⟩

end

theorem bare_errorLine {message : Styled} (bare : message.Bare) : (errorLine message).Bare := by
  simp +decide [errorLine, Emission.Bare, bare]

namespace Session

theorem bare_help : help.Bare := by
  apply (Styled.bare_of .plain _).mpr
  apply Text.bare_join
  decide +kernel

theorem bare_keywords : keywords.Bare := by
  have spellings : ∀ text ∈ Keyword.all.map Keyword.spelling, Text.Bare text := by decide
  have blank : Text.Bare " " := by decide
  have words := Text.bare_intercalate blank spellings
  exact (Styled.bare_of .plain _).mpr ((Text.bare_append _ _).mpr ⟨words, by decide⟩)

theorem bare_unknownCommand {line : String} (bare : Text.Bare line) : (unknownCommand line).Bare := by
  have word : Text.Bare (Text.trim line) := fun inside => bare (Text.mem_of_mem_trim inside)
  apply bare_errorLine
  simp +decide [word]

theorem bare_respond (options : Listing.Options) {line : String} (bare : Text.Bare line) :
    (respond options line).Bare := by
  unfold respond
  split
  · exact List.forall_mem_nil _
  split
  · split
    · exact List.forall_mem_singleton.mpr bare_help
    · exact List.forall_mem_singleton.mpr bare_keywords
    · exact List.forall_mem_nil _
    · exact List.forall_mem_singleton.mpr (bare_unknownCommand bare)
  · exact List.forall_mem_append.mpr ⟨Scan.bare_log bare, Scan.bare_shown bare options (by decide)⟩

theorem answered_sublist (options : Listing.Options) (lines : List String) :
    (answered options lines).Sublist lines := by
  induction lines with
  | nil => exact .slnil
  | cons line rest ih =>
    rw [answered]
    split
    · exact (List.nil_sublist rest).cons_cons line
    · exact ih.cons_cons line

/-- Only lines that are entered are answered, and they are lines of the input. -/
theorem bare_run (options : Listing.Options) {input : ByteArray}
    (bare : UInt8.ofNat escape.toNat ∉ input.data) : (run options input).Bare := by
  have lines : ∀ line ∈ answered options (entered (Input.sessionLines input).1), Text.Bare line := by
    intro line member inside
    have read := (List.takeWhile_sublist _).subset ((answered_sublist options _).subset member)
    exact bare (Input.byte_of_mem_sessionLines read (by decide) inside)
  have answers : ∀ emission ∈ [banner] ++ (answered options (entered (Input.sessionLines input).1)).flatMap
      fun line => (respond options line).emissions, emission.Bare := by
    refine List.forall_mem_append.mpr ⟨List.forall_mem_singleton.mpr (by decide), ?_⟩
    intro emission member
    obtain ⟨line, among, said⟩ := List.mem_flatMap.mp member
    exact bare_respond options (lines line among) emission said
  have said : Text.Bare ReadFault.notText.message := by decide
  have fault : Text.Bare s!"{ReadFault.notText.message}: {ReadFault.notText.message}" := by
    simp only [Text.bare_append, Text.bare_toString]
    exact ⟨⟨said, by decide⟩, said⟩
  unfold run
  simp only
  split
  · exact answers
  split
  · exact List.forall_mem_append.mpr ⟨answers, List.forall_mem_singleton.mpr (by decide)⟩
  · have last := bare_errorLine ((Styled.bare_of .plain _).mpr fault)
    exact List.forall_mem_append.mpr ⟨answers, List.forall_mem_singleton.mpr last⟩

end Session

end TokenScan
