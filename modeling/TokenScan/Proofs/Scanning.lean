import TokenScan.Proofs.Lexical
import TokenScan.Scanner

/-! What a scan is, by rules that mention no scanner: blanks and longest lexemes in turn, up to
the end of the text or the first character that neither can take. The rules and `collect` agree,
since each call is known at each kind of place that the rules name. -/
namespace TokenScan

/-- The text from `start` on yields these tokens and ends in this failure, if in any. -/
inductive Scans : Location → List Char → List Token → Option Failure → Prop where
  | blank {start : Location} {gap : List Char} : Blank gap → Scans start gap [] none
  | token {start : Location} {gap rest : List Char} {lexeme : Lexeme} {tokens : List Token}
      {failure : Option Failure} :
      Blank gap → lexeme.WellFormed → lexeme.Closed rest →
      Scans (Token.written lexeme (start.past gap)).finish rest tokens failure →
      Scans start (gap ++ (lexeme.written ++ rest))
        (.written lexeme (start.past gap) :: tokens) failure
  | unexpected {start : Location} {gap rest : List Char} {c : Char} : Blank gap → ¬ Legal c →
      Scans start (gap ++ c :: rest) [] (some ⟨start.past gap, .unexpectedCharacter c⟩)
  | unterminated {start : Location} {gap inside : List Char} : Blank gap → '"' ∉ inside →
      Scans start (gap ++ '"' :: inside) [] (some ⟨start.past gap, .unterminatedString⟩)

theorem takeWhile_blank {gap ahead : List Char} (blank : Blank gap)
    (stop : ∀ c, ahead.head? = some c → Text.isBlank c = false) :
    (gap ++ ahead).takeWhile Text.isBlank = gap ∧ (gap ++ ahead).dropWhile Text.isBlank = ahead := by
  have outside : ahead.takeWhile Text.isBlank = [] ∧ ahead.dropWhile Text.isBlank = ahead := by
    cases ahead with
    | nil => exact ⟨rfl, rfl⟩
    | cons c more => simp [stop c rfl]
  rw [List.takeWhile_append_of_pos blank, List.dropWhile_append_of_pos blank, outside.1, outside.2]
  exact ⟨List.append_nil gap, rfl⟩

theorem Lexeme.WellFormed.stops_blanks {lexeme : Lexeme} (formed : lexeme.WellFormed)
    (rest : List Char) : ∀ c, (lexeme.written ++ rest).head? = some c → Text.isBlank c = false := by
  obtain ⟨first, more, same, opens⟩ := formed.written_opens
  simp [same, opens.not_isBlank]

namespace Scanner

theorem skipBlanks_eq {gap ahead : List Char} (blank : Blank gap)
    (stop : ∀ c, ahead.head? = some c → Text.isBlank c = false) (cursor : Location) (halted : Bool) :
    skipBlanks ⟨gap ++ ahead, cursor, halted⟩ = ⟨ahead, cursor.past gap, halted⟩ := by
  obtain ⟨passed, left⟩ := takeWhile_blank blank stop
  simp only [skipBlanks, Text.dropBlanks, passed, left]

theorem nextToken_blank {gap : List Char} (blank : Blank gap) (cursor : Location) (halted : Bool) :
    nextToken ⟨gap, cursor, halted⟩ =
      ⟨.ok (.endOfInput (cursor.past gap)), [], ⟨[], cursor.past gap, halted⟩⟩ := by
  have stop : ∀ c, ([] : List Char).head? = some c → Text.isBlank c = false := by simp
  have skips := skipBlanks_eq blank stop cursor halted
  rw [List.append_nil] at skips
  simp [nextToken, skips, Head.read]

theorem nextToken_lexeme {gap rest : List Char} {lexeme : Lexeme} (blank : Blank gap)
    (formed : lexeme.WellFormed) (closed : lexeme.Closed rest) (cursor : Location) (halted : Bool) :
    nextToken ⟨gap ++ (lexeme.written ++ rest), cursor, halted⟩ =
      let token := Token.written lexeme (cursor.past gap)
      ⟨.ok token, [token.record], ⟨rest, token.finish, halted⟩⟩ := by
  have stop := formed.stops_blanks rest
  simp [nextToken, skipBlanks_eq blank stop, Head.read_complete formed closed]

theorem nextToken_unexpected {gap rest : List Char} {c : Char} (blank : Blank gap)
    (illegal : ¬ Legal c) (cursor : Location) (halted : Bool) :
    nextToken ⟨gap ++ c :: rest, cursor, halted⟩ =
      let failure : Failure := ⟨cursor.past gap, .unexpectedCharacter c⟩
      ⟨.error failure, [failure.record], ⟨c :: rest, cursor.past gap, true⟩⟩ := by
  obtain ⟨plain, alien⟩ := not_or.mp illegal
  have stop : ∀ d, (c :: rest).head? = some d → Text.isBlank d = false := by simpa using plain
  simp [nextToken, skipBlanks_eq blank stop, Head.read_of_not_opens alien]

theorem nextToken_unterminated {gap inside : List Char} (blank : Blank gap)
    (unclosed : '"' ∉ inside) (cursor : Location) (halted : Bool) :
    nextToken ⟨gap ++ '"' :: inside, cursor, halted⟩ =
      let failure : Failure := ⟨cursor.past gap, .unterminatedString⟩
      ⟨.error failure, [failure.record], ⟨[], (cursor.past gap).past ('"' :: inside), true⟩⟩ := by
  have stop : ∀ c, ('"' :: inside).head? = some c → Text.isBlank c = false := by
    rintro c ⟨⟩
    decide
  simp [nextToken, skipBlanks_eq blank stop, Head.read_of_unclosed unclosed]

/-- Without a failure so far `next` differs from `nextToken` in the end mark alone. -/
theorem next_of_ok {scanner after : Scanner} {token : Token} {records : List Log.Record}
    (running : scanner.halted = false) (turn : scanner.nextToken = ⟨.ok token, records, after⟩) :
    scanner.next = ⟨if token.kind = .endOfInput then none else some (.ok token), records, after⟩ := by
  simp [next, running, turn]

theorem next_of_error {scanner after : Scanner} {failure : Failure} {records : List Log.Record}
    (running : scanner.halted = false) (turn : scanner.nextToken = ⟨.error failure, records, after⟩) :
    scanner.next = ⟨some (.error failure), records, after⟩ := by
  simp [next, running, turn]

theorem next_of_halted {scanner : Scanner} (halted : scanner.halted = true) :
    scanner.next = ⟨none, [], scanner⟩ := by
  simp [next, halted]

theorem next_lexeme {gap rest : List Char} {lexeme : Lexeme} (blank : Blank gap)
    (formed : lexeme.WellFormed) (closed : lexeme.Closed rest) (cursor : Location) :
    next ⟨gap ++ (lexeme.written ++ rest), cursor, false⟩ =
      let token := Token.written lexeme (cursor.past gap)
      ⟨some (.ok token), [token.record], ⟨rest, token.finish, false⟩⟩ := by
  have within : (Token.written lexeme (cursor.past gap)).kind ≠ .endOfInput := formed.kind_ne
  rw [next_of_ok rfl (nextToken_lexeme blank formed closed cursor false), if_neg within]

end Scanner

/-- The records name the tokens in turn, then the failure. -/
def Scan.of (tokens : List Token) (failure : Option Failure) : Scan :=
  ⟨tokens, failure, tokens.map Token.record ++ failure.toList.map Failure.record⟩

theorem Scans.collect_eq {start : Location} {chars : List Char} {tokens : List Token}
    {failure : Option Failure} (scans : Scans start chars tokens failure) :
    Scanner.collect ⟨chars, start, false⟩ = Scan.of tokens failure := by
  induction scans with
  | @blank start gap blank =>
    exact Scanner.collect_of_none (Scanner.next_of_ok rfl (Scanner.nextToken_blank blank start false))
  | @token start gap rest lexeme tokens failure blank formed closed _ ih =>
    rw [Scanner.collect_of_token (Scanner.next_lexeme blank formed closed start), ih]
    simp [Scan.of]
  | @unexpected start gap rest c blank illegal =>
    exact Scanner.collect_of_failure
      (Scanner.next_of_error rfl (Scanner.nextToken_unexpected blank illegal start false))
  | @unterminated start gap inside blank unclosed =>
    exact Scanner.collect_of_failure
      (Scanner.next_of_error rfl (Scanner.nextToken_unterminated blank unclosed start false))

/-- Every text is scanned by the rules: what follows the blanks at its front decides which. -/
theorem scans_total (start : Location) (chars : List Char) :
    ∃ tokens failure, Scans start chars tokens failure := by
  induction size : chars.length using Nat.strongRecOn generalizing start chars with
  | _ n ih =>
    have split : chars.takeWhile Text.isBlank ++ chars.dropWhile Text.isBlank = chars :=
      List.takeWhile_append_dropWhile
    have blank : Blank (chars.takeWhile Text.isBlank) := List.all_eq_true.mp List.all_takeWhile
    generalize chars.takeWhile Text.isBlank = gap at split blank
    cases reads : Head.read (chars.dropWhile Text.isBlank) with
    | nothing =>
      rw [Head.read_eq_nothing_iff.mp reads, List.append_nil] at split
      rw [← split]
      exact ⟨[], none, .blank blank⟩
    | lexeme found rest =>
      obtain ⟨formed, closed, ahead⟩ := Head.read_eq_lexeme_iff.mp reads
      have shorter : rest.length < n := by
        have := Head.read_shorter reads
        rw [← size, ← split, List.length_append]
        omega
      obtain ⟨tokens, failure, others⟩ := ih rest.length shorter
        (Token.written found (start.past gap)).finish rest rfl
      rw [← split, ahead]
      exact ⟨_, failure, .token blank formed closed others⟩
    | failure reason passed rest =>
      cases reason with
      | unexpectedCharacter c =>
        obtain ⟨alien, _, _, head⟩ := Head.read_eq_unexpected_iff.mp reads
        obtain ⟨more, ahead⟩ := List.head?_eq_some_iff.mp head
        have plain : Text.isBlank c = false := Head.head?_dropWhile head
        have illegal : ¬ Legal c := not_or.mpr ⟨by simp [plain], alien⟩
        rw [← split, ahead]
        exact ⟨[], _, .unexpected blank illegal⟩
      | unterminatedString =>
        obtain ⟨_, _, inside, ahead, unclosed⟩ := Head.read_eq_unterminated_iff.mp reads
        rw [← split, ahead]
        exact ⟨[], _, .unterminated blank unclosed⟩

theorem Scans.unique {start : Location} {chars : List Char} {tokens others : List Token}
    {failure other : Option Failure} (first : Scans start chars tokens failure)
    (second : Scans start chars others other) : tokens = others ∧ failure = other := by
  have same := first.collect_eq.symm.trans second.collect_eq
  exact ⟨congrArg Scan.tokens same, congrArg Scan.failure same⟩

theorem scan_scans (source : String) :
    Scans .start source.toList (scan source).tokens (scan source).failure := by
  obtain ⟨tokens, failure, scans⟩ := scans_total .start source.toList
  have collects : scan source = Scan.of tokens failure := scans.collect_eq
  rw [collects]
  exact scans

/-- One record for each token in turn, then one for the failure, if there is one. -/
theorem scan_records (source : String) : (scan source).records =
    (scan source).tokens.map Token.record ++ (scan source).failure.toList.map Failure.record := by
  have collects : scan source = Scan.of (scan source).tokens (scan source).failure :=
    (scan_scans source).collect_eq
  exact congrArg Scan.records collects

theorem Scans.scan_eq {source : String} {tokens : List Token} {failure : Option Failure}
    (scans : Scans .start source.toList tokens failure) :
    (scan source).tokens = tokens ∧ (scan source).failure = failure :=
  (scan_scans source).unique scans

end TokenScan
