import TokenScan.Proofs.Calls
import TokenScan.Proofs.Partition

/-! Every location that a scanner reports is where it says: its line and column are those that
counting through the text up to its offset gives. They are kept up one character at a time, so
the invariant is that a scanner stands behind a front part of its text, at the location that
reading through this part leads to. -/
namespace TokenScan

/-- The index just behind the last line feed, or that of the first character if there is none. -/
def lineStart (front : List Char) : Nat := front.length - front.reverse.idxOf '\n'

/-- The location of the character with this index, by counting. -/
def Location.ofIndex (chars : List Char) (i : Nat) : Location :=
  ⟨i, (chars.take i).count '\n', i - lineStart (chars.take i)⟩

structure Location.LiesIn (location : Location) (source : String) : Prop where
  within : location.offset ≤ source.length
  counted : location = .ofIndex source.toList location.offset

/-- Both ends lie in the text, as far apart as the token is long with its quotes. -/
structure Token.LiesIn (token : Token) (source : String) : Prop where
  start : token.start.LiesIn source
  finish : token.finish.LiesIn source
  width : token.start.offset + (token.text.length + 2 * token.kind.quotes) = token.finish.offset

def Reply.LiesIn (source : String) : Reply → Prop
  | none => True
  | some (.ok token) => token.LiesIn source
  | some (.error failure) => failure.location.LiesIn source

theorem lineStart_of_plain {line : List Char} (plain : '\n' ∉ line) : lineStart line = 0 := by
  rw [lineStart, List.idxOf_eq_length (by simpa using plain), List.length_reverse, Nat.sub_self]

theorem lineStart_of_feed {line : List Char} (before : List Char) (plain : '\n' ∉ line) :
    lineStart (before ++ '\n' :: line) = before.length + 1 := by
  have behind : (before ++ '\n' :: line).reverse.idxOf '\n' = line.length := by
    rw [List.reverse_append, List.reverse_cons, List.append_assoc,
      List.idxOf_append, if_neg (by simpa using plain)]
    simp
  rw [lineStart, behind, List.length_append, List.length_cons]
  omega

namespace Location

theorem past_line (location : Location) (chars : List Char) :
    (location.past chars).line = location.line + chars.count '\n' := by
  induction chars generalizing location with
  | nil => rfl
  | cons c rest ih =>
    rw [past_cons, ih, List.count_cons]
    by_cases feed : c = '\n'
    · simp [advance, feed]
      omega
    · simp [advance, feed]

theorem past_column_of_plain (location : Location) {line : List Char} (plain : '\n' ∉ line) :
    (location.past line).column = location.column + line.length := by
  induction line generalizing location with
  | nil => rfl
  | cons c rest ih =>
    obtain ⟨feed, others⟩ := not_or.mp (mt List.mem_cons.mpr plain)
    rw [past_cons, ih _ others]
    simp [advance, Ne.symm feed]
    omega

/-- Only the last line counts. -/
theorem past_column (chars : List Char) :
    (start.past chars).column = chars.length - lineStart chars := by
  by_cases feed : '\n' ∈ chars
  · obtain ⟨back, front, parts, plain⟩ := List.eq_append_cons_of_mem (List.mem_reverse.mpr feed)
    obtain rfl : chars = front.reverse ++ '\n' :: back.reverse := by
      rw [← List.reverse_reverse chars, parts]
      simp
    have line : '\n' ∉ back.reverse := by simpa using plain
    rw [past_append, past_cons, past_column_of_plain _ line, lineStart_of_feed _ line]
    simp [advance]
    omega
  · rw [past_column_of_plain _ feed, lineStart_of_plain feed]
    simp [start]

theorem past_eq_ofIndex (front rest : List Char) :
    start.past front = ofIndex (front ++ rest) front.length := by
  have offset : (start.past front).offset = front.length := past_start_offset front
  have line : (start.past front).line = front.count '\n' := by
    rw [past_line]
    exact Nat.zero_add _
  rw [ofIndex, List.take_left, ← past_column, ← line, ← offset]

end Location

/-- The part of the text that has been read, and the location that this leads to. -/
structure Scanner.Behind (source : String) (front : List Char) (scanner : Scanner) : Prop where
  parts : source.toList = front ++ scanner.rest
  cursor : scanner.cursor = Location.start.past front

namespace Scanner

variable {source : String} {front : List Char} {scanner : Scanner}

theorem behind_start (source : String) : Behind source [] (ofSource source) := ⟨rfl, rfl⟩

theorem Behind.liesIn (behind : Behind source front scanner) : scanner.cursor.LiesIn source := by
  obtain ⟨parts, cursor⟩ := behind
  have offset : scanner.cursor.offset = front.length := by
    rw [cursor, Location.past_start_offset]
  constructor
  · rw [offset, ← String.length_toList, parts, List.length_append]
    exact Nat.le_add_right _ _
  · rw [offset, cursor, parts]
    exact Location.past_eq_ofIndex front scanner.rest

/-- Reading on moves the cursor through what is read. -/
theorem Behind.read (behind : Behind source front scanner) {passed rest : List Char}
    (reads : scanner.rest = passed ++ rest) (halted : Bool) :
    Behind source (front ++ passed) ⟨rest, scanner.cursor.past passed, halted⟩ := by
  constructor
  · rw [behind.parts, reads, List.append_assoc]
  · rw [behind.cursor, Location.past_append]

theorem Behind.skipBlanks (behind : Behind source front scanner) :
    ∃ front, Behind source front scanner.skipBlanks :=
  ⟨_, behind.read List.takeWhile_append_dropWhile.symm scanner.halted⟩

theorem Behind.token (behind : Behind source front scanner) {found : Lexeme} {rest : List Char}
    (reads : scanner.rest = found.written ++ rest) :
    (Token.written found scanner.cursor).LiesIn source := by
  refine ⟨behind.liesIn, (behind.read reads false).liesIn, ?_⟩
  rw [Token.written_start, Token.written_finish, Location.past_offset, Lexeme.written_eq]
  simp only [List.length_append, List.length_replicate, String.length_toList,
    Token.written_toLexeme]
  omega

theorem Behind.endOfInput (behind : Behind source front scanner) :
    (Token.endOfInput scanner.cursor).LiesIn source :=
  ⟨behind.liesIn, behind.liesIn, rfl⟩

/-- One case for each way in which a text can begin behind its blanks. -/
theorem Behind.nextToken (behind : Behind source front scanner) :
    Reply.LiesIn source (some scanner.nextToken.answer) ∧
    ∃ front, Behind source front scanner.nextToken.scanner := by
  obtain ⟨front, behind⟩ := behind.skipBlanks
  unfold Scanner.nextToken
  simp only
  cases reads : Head.read scanner.skipBlanks.rest with
  | nothing => exact ⟨behind.endOfInput, front, behind⟩
  | lexeme found rest =>
    have written := Head.read_written reads
    exact ⟨behind.token written, _, behind.read written _⟩
  | failure reason passed rest =>
    exact ⟨behind.liesIn, _, behind.read (Head.read_failure reads) true⟩

theorem Behind.call (behind : Behind source front scanner) (call : Call) :
    Reply.LiesIn source (scanner.call call).answer ∧
    ∃ front, Behind source front (scanner.call call).scanner := by
  obtain ⟨located, after⟩ := behind.nextToken
  cases call with
  | nextToken => exact ⟨located, after⟩
  | next =>
    rw [Scanner.call]
    cases halted : scanner.halted with
    | true =>
      rw [next_of_halted halted]
      exact ⟨trivial, front, behind⟩
    | false =>
      generalize turn : scanner.nextToken = given at located after
      obtain ⟨answer, records, left⟩ := given
      cases answer with
      | error failure =>
        rw [next_of_error halted turn]
        exact ⟨located, after⟩
      | ok token =>
        rw [next_of_ok halted turn]
        refine ⟨?_, after⟩
        split
        · trivial
        · exact located

/-- The induction is on the calls; the scanner may stand behind any part of the text. -/
theorem Behind.calls (behind : Behind source front scanner) (calls : List Call) :
    (∀ reply ∈ scanner.replies calls, Reply.LiesIn source reply) ∧
    ∃ front, Behind source front (scanner.after calls) := by
  induction calls generalizing scanner front with
  | nil => exact ⟨by simp [replies], front, behind⟩
  | cons call calls ih =>
    obtain ⟨located, _, next⟩ := behind.call call
    obtain ⟨others, last⟩ := ih next
    refine ⟨?_, last⟩
    intro reply member
    rcases List.mem_cons.mp member with rfl | later
    · exact located
    · exact others reply later

/-- Whatever is called, in whatever order: cursor, tokens and failures are where they say. -/
theorem calls_lie_in (source : String) (calls : List Call) :
    ((ofSource source).after calls).cursor.LiesIn source ∧
    ∀ reply ∈ (ofSource source).replies calls, Reply.LiesIn source reply := by
  obtain ⟨located, _, last⟩ := (behind_start source).calls calls
  exact ⟨last.liesIn, located⟩

/-- A string over two lines, with characters of one to four bytes. -/
theorem string_lies_in :
    some (.ok ⟨⟨.stringLiteral, "é\r\n€𝄞"⟩, ⟨0, 0, 0⟩, ⟨7, 1, 3⟩⟩) ∈
      (ofSource "\"é\r\n€𝄞\" ?").replies [.nextToken, .next] ∧
    Token.LiesIn ⟨⟨.stringLiteral, "é\r\n€𝄞"⟩, ⟨0, 0, 0⟩, ⟨7, 1, 3⟩⟩ "\"é\r\n€𝄞\" ?" := by
  have given : some (.ok ⟨⟨.stringLiteral, "é\r\n€𝄞"⟩, ⟨0, 0, 0⟩, ⟨7, 1, 3⟩⟩) ∈
      (ofSource "\"é\r\n€𝄞\" ?").replies [.nextToken, .next] :=
    List.mem_cons.mpr (.inl rfl)
  exact ⟨given, (calls_lie_in _ [.nextToken, .next]).2 _ given⟩

end Scanner

end TokenScan
