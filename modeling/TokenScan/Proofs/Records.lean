import TokenScan.Proofs.Labels
import TokenScan.Proofs.Partition

/-! The log of a scan: a record for each token in turn, then one for the failure, and nothing else.
Although texts stand in it as they are, with parentheses, quotes, line feeds and all, it is read
back: scans with the same log have the same tokens at the same lines and columns, and the same
failure. -/
namespace TokenScan

/-- What the log tells of a token. -/
def Token.told (token : Token) : Kind × String × Nat × Nat :=
  (token.kind, token.text, token.start.line, token.start.column)

/-- What the log tells of a failure; the reason holds the character, if it is about one. -/
def Failure.told (failure : Failure) : Reason × Nat := (failure.reason, failure.location.offset)

theorem Token.record_text (token : Token) : token.record.text.toList =
    (token.label ++ " at").toList ++ ' ' :: token.start.label.toList := by
  simp only [record, String.toList_append, List.append_assoc]
  rfl

theorem Token.told_of_record {first second : Token} (within : first.kind ≠ .endOfInput)
    (within' : second.kind ≠ .endOfInput) (same : first.record = second.record) :
    first.told = second.told := by
  have texts := congrArg (fun record => record.text.toList) same
  simp only [record_text] at texts
  obtain ⟨labels, _, line, column⟩ := Location.label_at_end (by decide) (by decide) texts
  have lexemes : first.toLexeme = second.toLexeme := by
    apply Lexeme.label_injective within within'
    exact (String.append_left_inj _).mp (String.toList_inj.mp labels)
  rw [told, told, line, column, lexemes]

/-- Whatever the character is, one of the messages is shorter than the other. -/
theorem Reason.message_ne (c : Char) :
    (unexpectedCharacter c).message ≠ unterminatedString.message := by
  have unlike : "Unexpected character: '".length + 1 + "'".length ≠
      "Unterminated string literal".length := by decide
  intro same
  have lengths : ("Unexpected character: '" ++ c.toString ++ "'").length =
      "Unterminated string literal".length := congrArg String.length same
  rw [String.length_append, String.length_append, Char.toString_eq_singleton,
    String.length_singleton] at lengths
  exact unlike lengths

theorem Reason.message_injective {first second : Reason} (same : first.message = second.message) :
    first = second := by
  cases first with
  | unexpectedCharacter c =>
    cases second with
    | unexpectedCharacter d =>
      have quoted := (String.append_right_inj _).mp ((String.append_left_inj _).mp same)
      obtain rfl : c = d := String.singleton_inj.mp quoted
      rfl
    | unterminatedString => exact absurd same (message_ne c)
  | unterminatedString =>
    cases second with
    | unexpectedCharacter d => exact absurd same.symm (message_ne d)
    | unterminatedString => rfl

theorem Failure.record_text (failure : Failure) : failure.record.text.toList =
    ("Scan failed: " ++ failure.reason.message ++ " at position").toList ++
      ' ' :: (toString failure.location.offset).toList := by
  have position : " at position ".toList = " at position".toList ++ [' '] := by decide
  simp only [record, message, toString, String.toList_append, List.append_assoc, position]
  rfl

theorem Failure.told_of_record {first second : Failure} (same : first.record = second.record) :
    first.told = second.told := by
  have texts := congrArg (fun record => record.text.toList) same
  simp only [record_text] at texts
  obtain ⟨messages, _, offset⟩ := number_at_end (by decide) (by decide) texts
  have reasons : first.reason = second.reason := by
    have said := (String.append_left_inj _).mp (String.toList_inj.mp messages)
    exact Reason.message_injective ((String.append_right_inj _).mp said)
  rw [told, told, offset, reasons]

/-- The level tells where the records of tokens end. The induction is on the tokens of the first
scan, which those of the second follow one by one. -/
theorem told_of_records {tokens others : List Token} {failure other : Option Failure}
    (within : ∀ token ∈ tokens, token.kind ≠ .endOfInput)
    (within' : ∀ token ∈ others, token.kind ≠ .endOfInput)
    (same : tokens.map Token.record ++ failure.toList.map Failure.record =
      others.map Token.record ++ other.toList.map Failure.record) :
    tokens.map Token.told = others.map Token.told ∧
      failure.map Failure.told = other.map Failure.told := by
  have levels (token : Token) (failure : Failure) : failure.record ≠ token.record := by
    intro record
    cases congrArg Log.Record.level record
  induction tokens generalizing others with
  | nil =>
    cases others with
    | nil =>
      refine ⟨rfl, ?_⟩
      cases failure with
      | none =>
        cases other with
        | none => rfl
        | some => cases same
      | some failure =>
        cases other with
        | none => cases same
        | some other =>
          exact congrArg some (Failure.told_of_record (List.cons.inj same).1)
    | cons token others =>
      cases failure with
      | none => cases same
      | some failure => exact absurd (List.cons.inj same).1 (levels token failure)
  | cons token tokens ih =>
    cases others with
    | nil =>
      cases other with
      | none => cases same
      | some other => exact absurd (List.cons.inj same).1.symm (levels token other)
    | cons second others =>
      obtain ⟨first, rest⟩ := List.cons.inj same
      obtain ⟨behind, last⟩ := ih (fun token later => within token (List.mem_cons_of_mem _ later))
        (fun token later => within' token (List.mem_cons_of_mem _ later)) rest
      have told := Token.told_of_record (within token List.mem_cons_self)
        (within' second List.mem_cons_self) first
      refine ⟨?_, last⟩
      rw [List.map_cons, List.map_cons, told, behind]

theorem Scans.kind_ne {start : Location} {chars : List Char} {tokens : List Token}
    {failure : Option Failure} (scans : Scans start chars tokens failure) :
    ∀ token ∈ tokens, token.kind ≠ .endOfInput := by
  intro token member
  obtain ⟨_, _, _, _, formed, _⟩ := scans.placed member
  exact formed.kind_ne

/-- The log mirrors the scan, and tells it from every other one. -/
theorem records_tell_scan :
    (∀ source, (scan source).records =
        (scan source).tokens.map (fun token =>
          ⟨.trace, .scanner, s!"{token.label} at {token.start.label}"⟩) ++
        (scan source).failure.toList.map (fun failure =>
          ⟨.debug, .scanner, s!"Scan failed: {failure.message}"⟩) ∧
      ∀ token ∈ (scan source).tokens, token.kind ≠ .endOfInput) ∧
    ∀ first second, (scan first).records = (scan second).records →
      (scan first).tokens.map Token.told = (scan second).tokens.map Token.told ∧
      (scan first).failure.map Failure.told = (scan second).failure.map Failure.told := by
  constructor
  · intro source
    exact ⟨scan_records source, (scan_scans source).kind_ne⟩
  · intro first second same
    rw [scan_records, scan_records] at same
    exact told_of_records (scan_scans first).kind_ne (scan_scans second).kind_ne same

/-- A string that imitates the end of its record, and two texts that differ in a blank behind it. -/
theorem records_tell_string :
    (scan "\"x')\n at 1:1\" $").records = (scan "\"x')\n at 1:1\"\t$").records ∧
    (scan "\"x')\n at 1:1\" $").tokens.map Token.told =
      (scan "\"x')\n at 1:1\"\t$").tokens.map Token.told ∧
    (scan "\"x')\n at 1:1\" $").failure.map Failure.told =
      (scan "\"x')\n at 1:1\"\t$").failure.map Failure.told := by
  have same : (scan "\"x')\n at 1:1\" $").records = (scan "\"x')\n at 1:1\"\t$").records := by
    decide +kernel
  exact ⟨same, records_tell_scan.2 _ _ same⟩

end TokenScan
