import TokenScan.Proofs.Diagnostics
import TokenScan.Proofs.Widths

/-! Counting in 64-bit words. All of it completes over any source of fewer than 2 ^ 64 - 1 characters:
what has been read is never longer than the source, and neither line nor column is ever beyond the
offset. What may still break off is a listing, at a token that is too wide for its column. -/
namespace TokenScan

/-- Each line feed and each column has been a character. -/
def Location.Bounded (location : Location) : Prop :=
  location.line ≤ location.offset ∧ location.column ≤ location.offset

theorem Word.succ?_eq {value : Nat} (fits : value + 1 < size) : succ? value = .ok (value + 1) :=
  succ?_eq_ok_iff.mpr ⟨fits, rfl⟩

namespace Location

theorem bounded_start : start.Bounded := ⟨Nat.le_refl 0, Nat.le_refl 0⟩

theorem Bounded.advance {location : Location} (bounded : location.Bounded) (c : Char) :
    (location.advance c).Bounded := by
  obtain ⟨line, column⟩ := bounded
  by_cases feed : c = '\n'
  · rw [Location.advance, if_pos feed]
    exact ⟨Nat.succ_le_succ line, Nat.zero_le _⟩
  · rw [Location.advance, if_neg feed]
    exact ⟨Nat.le_succ_of_le line, Nat.succ_le_succ column⟩

theorem Bounded.past {location : Location} (bounded : location.Bounded) (chars : List Char) :
    (location.past chars).Bounded := by
  induction chars generalizing location with
  | nil => exact bounded
  | cons c rest ih => exact ih (bounded.advance c)

/-- The offset is the largest of the three counts, so it alone has to fit. -/
theorem Bounded.advance?_eq {location : Location} (bounded : location.Bounded) (c : Char)
    (fits : location.offset + 1 < Word.size) : location.advance? c = .ok (location.advance c) := by
  obtain ⟨line, column⟩ := bounded
  have offset := Word.succ?_eq fits
  have line : Word.succ? location.line = .ok (location.line + 1) := Word.succ?_eq (by omega)
  have column : Word.succ? location.column = .ok (location.column + 1) := Word.succ?_eq (by omega)
  rw [advance?, offset, line, column, Location.advance]
  split <;> rfl

theorem Bounded.past?_eq {location : Location} (bounded : location.Bounded)
    {chars : List Char} (fits : location.offset + chars.length < Word.size) :
    location.past? chars = .ok (location.past chars) := by
  induction chars generalizing location with
  | nil => rfl
  | cons c rest ih =>
    rw [List.length_cons] at fits
    have first := bounded.advance?_eq c (by omega)
    have others := ih (bounded.advance c) (by rw [advance_offset]; omega)
    rw [past?, List.foldlM_cons, first]
    exact others

/-- Neither line nor column of a place in the source is beyond its offset. -/
theorem LiesIn.label?_eq {location : Location} {source : String} (lies : location.LiesIn source)
    (fits : source.length + 1 < Word.size) : location.label? = .ok location.label := by
  have within := lies.within
  have labelled : location.Labelled := by
    rw [lies.counted]
    exact Diagnostic.ofIndex_labelled (by omega)
  rw [Location.label?_eq, if_pos labelled]

end Location

namespace Scanner

variable {source : String} {front : List Char} {scanner : Scanner}

theorem Behind.bounded (behind : Behind source front scanner) : scanner.cursor.Bounded := by
  rw [behind.cursor]
  exact Location.bounded_start.past front

theorem Behind.offset (behind : Behind source front scanner) :
    scanner.cursor.offset + scanner.rest.length = source.length := by
  rw [behind.cursor, Location.past_start_offset, ← List.length_append, ← behind.parts,
    String.length_toList]

/-- What is left of the source is as much as can still be counted. -/
theorem Behind.past?_eq (behind : Behind source front scanner) (fits : source.length < Word.size)
    {passed rest : List Char} (reads : scanner.rest = passed ++ rest) :
    scanner.cursor.past? passed = .ok (scanner.cursor.past passed) := by
  have whole := behind.offset
  rw [reads, List.length_append] at whole
  exact behind.bounded.past?_eq (by omega)

theorem Behind.skipBlanks?_eq (behind : Behind source front scanner)
    (fits : source.length < Word.size) : scanner.skipBlanks? = .ok scanner.skipBlanks := by
  have blanks := behind.past?_eq fits
    (List.takeWhile_append_dropWhile (p := Text.isBlank) (l := scanner.rest)).symm
  rw [skipBlanks?, blanks]
  rfl

theorem Behind.nextToken?_eq (behind : Behind source front scanner)
    (fits : source.length + 1 < Word.size) : scanner.nextToken? = .ok scanner.nextToken := by
  have short : source.length < Word.size := Nat.lt_of_succ_lt fits
  obtain ⟨_, skipped⟩ := behind.skipBlanks
  have shown := skipped.liesIn.label?_eq fits
  rw [nextToken?, behind.skipBlanks?_eq short, Scanner.nextToken]
  simp only [bind, Except.bind]
  cases reads : Head.read scanner.skipBlanks.rest with
  | nothing => rfl
  | lexeme found rest =>
    simp only [skipped.past?_eq short (Head.read_written reads), shown]
    rfl
  | failure reason passed rest =>
    simp only [skipped.past?_eq short (Head.read_failure reads)]
    rfl

theorem Behind.next?_eq (behind : Behind source front scanner)
    (fits : source.length + 1 < Word.size) : scanner.next? = .ok scanner.next := by
  rw [next?, next, behind.nextToken?_eq fits]
  by_cases halted : scanner.halted = true
  · rw [if_pos halted, if_pos halted]
    rfl
  · rw [if_neg halted, if_neg halted]
    simp only [bind, Except.bind]
    cases scanner.nextToken.answer with
    | ok token => rfl
    | error failure => rfl

theorem Behind.call?_eq (behind : Behind source front scanner)
    (fits : source.length + 1 < Word.size) (call : Call) :
    scanner.call? call = .ok (scanner.call call) := by
  cases call with
  | nextToken =>
    rw [call?, behind.nextToken?_eq fits]
    rfl
  | next => exact behind.next?_eq fits

/-- The induction is on the calls, with the part of the source that was read before them. -/
theorem Behind.run?_eq (behind : Behind source front scanner)
    (fits : source.length + 1 < Word.size) (calls : List Call) :
    scanner.run? calls = .ok (scanner.replies calls, scanner.after calls) := by
  induction calls generalizing scanner front with
  | nil => rfl
  | cons call calls ih =>
    obtain ⟨_, _, next⟩ := behind.call call
    rw [run?, behind.call?_eq fits, replies, after]
    simp only [bind, Except.bind, ih next]
    rfl

/-- The induction follows `collect`, from each token to the scanner behind it. -/
theorem Behind.collect?_eq (behind : Behind source front scanner)
    (fits : source.length + 1 < Word.size) : scanner.collect? = .ok scanner.collect := by
  induction scanner using Scanner.collect.induct generalizing front with
  | case1 scanner records after turn =>
    rw [collect?_of_none (turn ▸ behind.next?_eq fits), collect_of_none turn]
  | case2 scanner failure records after turn =>
    rw [collect?_of_failure (turn ▸ behind.next?_eq fits), collect_of_failure turn]
  | case3 scanner token records after turn _ ih =>
    obtain ⟨_, _, next⟩ := behind.call .next
    rw [Scanner.call, turn] at next
    rw [collect?_of_token (turn ▸ behind.next?_eq fits), ih next, collect_of_token turn]
    rfl

/-- All that `collect` gives are answers to calls of `next`, and lie where these do. -/
theorem Behind.collect (behind : Behind source front scanner) :
    (∀ token ∈ scanner.collect.tokens, token.LiesIn source) ∧
    ∀ failure, scanner.collect.failure = some failure → failure.location.LiesIn source := by
  induction scanner using Scanner.collect.induct generalizing front with
  | case1 scanner records after turn =>
    rw [collect_of_none turn]
    exact ⟨by simp, by simp⟩
  | case2 scanner failure records after turn =>
    obtain ⟨located, _⟩ := behind.call .next
    rw [Scanner.call, turn] at located
    rw [collect_of_failure turn]
    refine ⟨by simp, ?_⟩
    rintro _ ⟨⟩
    exact located
  | case3 scanner token records after turn _ ih =>
    obtain ⟨located, _, next⟩ := behind.call .next
    rw [Scanner.call, turn] at located next
    obtain ⟨others, failing⟩ := ih next
    rw [collect_of_token turn]
    refine ⟨?_, failing⟩
    intro other member
    rcases List.mem_cons.mp member with rfl | later
    · exact located
    · exact others other later

end Scanner

/-- Its range, the length of this, and both of its ends on display. The other questions to a range
compare counts, and a token is displayed without its place. -/
structure Token.Completes (token : Token) : Prop where
  range : ∃ range, token.range? = .ok range ∧ range.length? = .ok range.length
  start : token.start.label? = .ok token.start.label
  finish : token.finish.label? = .ok token.finish.label

structure Failure.Completes (failure : Failure) (source : String) : Prop where
  location : failure.location.label? = .ok failure.location.label
  diagnostic : ∀ coloured name, failure.render? coloured name source =
    .ok (Diagnostic.render coloured (.ofFailure name source failure))

variable {source : String}

theorem Token.LiesIn.completes {token : Token} (lies : token.LiesIn source)
    (fits : source.length + 1 < Word.size) : token.Completes := by
  have ordered : token.start.offset ≤ token.finish.offset := by
    rw [← lies.width]
    exact Nat.le_add_right _ _
  have between : token.range? = .ok ⟨token.start, token.finish, ordered⟩ :=
    Range.between?_eq_ok_iff.mpr ⟨rfl, rfl⟩
  exact ⟨⟨_, between, Range.length?_eq _⟩, lies.start.label?_eq fits, lies.finish.label?_eq fits⟩

theorem Failure.completes {failure : Failure} (lies : failure.location.LiesIn source)
    (fits : source.length + 1 < Word.size) : failure.Completes source := by
  have label := lies.label?_eq fits
  refine ⟨label, fun coloured name => ?_⟩
  have between : Range.between? failure.location failure.location = .ok (.empty failure.location) :=
    Range.between?_eq_ok_iff.mpr ⟨rfl, rfl⟩
  rw [Failure.render?, between]
  simp only [bind, Except.bind, Range.length?_eq, Diagnostic.render?, Range.empty, label]
  rfl

theorem mapM_label? {tokens : List Token} (complete : ∀ token ∈ tokens, token.Completes) :
    (tokens.mapM fun token => token.start.label?) = .ok (tokens.map fun token => token.start.label) := by
  induction tokens with
  | nil => rfl
  | cons token tokens ih =>
    have first := (complete token List.mem_cons_self).start
    have others := ih fun other member => complete other (List.mem_cons_of_mem _ member)
    rw [List.mapM_cons, first, others]
    rfl

/-- A listing is written unless it is too wide for that. -/
structure Listing.Completes (options : Options) (tokens : List Token) : Prop where
  fits : ¬ Wide options tokens → ∃ output,
    render? options tokens = .ok output ∧ render options tokens = .ok output
  wide : Wide options tokens → render? options tokens = .error .wideColumn

theorem Listing.completes {tokens : List Token} (complete : ∀ token ∈ tokens, token.Completes)
    (options : Options) : Completes options tokens := by
  constructor
  · intro fits
    obtain ⟨output, written⟩ := exists_render fits
    refine ⟨output, ?_, written⟩
    rw [render?, written, mapM_label? complete]
    simp only [bind, Except.bind]
    split <;> rfl
  · intro wide
    rw [render?, render_of_wide wide]
    rfl

/-- Counting bytes fails only where there are more of them than fit a word. -/
theorem Text.byteCount?_eq {chars : List Char}
    (fits : (String.ofList chars).utf8ByteSize < Word.size) :
    byteCount? chars = .ok (String.ofList chars).utf8ByteSize := by
  -- What has been counted already may be anything that leaves room for the rest.
  suffices counting : ∀ count, count + (String.ofList chars).utf8ByteSize < Word.size →
      (chars.foldlM (fun count c => Word.add? count c.utf8Size) count : Except Fault Nat) =
        .ok (count + (String.ofList chars).utf8ByteSize) by
    rw [byteCount?, counting 0 (by omega), Nat.zero_add]
  clear fits
  induction chars with
  | nil => exact fun count _ => rfl
  | cons c rest ih =>
    intro count fits
    rw [String.ofList_cons, String.utf8ByteSize_append, String.utf8ByteSize_singleton] at fits ⊢
    have first : Word.add? count c.utf8Size = .ok (count + c.utf8Size) := if_pos (by omega)
    have others := ih (count + c.utf8Size) (by omega)
    rw [Nat.add_assoc] at others
    rw [List.foldlM_cons, first]
    exact others

theorem Text.byteOffset_le (source : String) (count : Nat) :
    byteOffset source count ≤ source.utf8ByteSize := by
  have parts : source = String.ofList (source.toList.take count) ++
      String.ofList (source.toList.drop count) := by
    rw [← String.ofList_append, List.take_append_drop, String.ofList_toList]
  have whole := congrArg String.utf8ByteSize parts
  rw [String.utf8ByteSize_append] at whole
  rw [whole]
  exact Nat.le_add_right _ _

namespace Scanner

/-- The checked scanner answers as the other one does, and whatever is made of its answers completes:
of tokens and failures each, and of any of the tokens in a listing. -/
structure RunCompletes (source : String) (calls : List Call) : Prop where
  run : (ofSource source).run? calls =
    .ok ((ofSource source).replies calls, (ofSource source).after calls)
  cursor : ((ofSource source).after calls).cursor.label? =
    .ok ((ofSource source).after calls).cursor.label
  tokens : ∀ token, some (.ok token) ∈ (ofSource source).replies calls → token.Completes
  failures : ∀ failure, some (.error failure) ∈ (ofSource source).replies calls →
    failure.Completes source
  listing : ∀ tokens, (∀ token ∈ tokens, some (.ok token) ∈ (ofSource source).replies calls) →
    ∀ options, Listing.Completes options tokens
  /-- A source in memory has no more bytes than a word can count. -/
  bytes : source.utf8ByteSize < Word.size →
    let read := ((ofSource source).after calls).cursor.offset
    Text.byteCount? (source.toList.take read) = .ok (Text.byteOffset source read)

theorem run_completes {source : String} (fits : source.length + 1 < Word.size) (calls : List Call) :
    RunCompletes source calls := by
  have start := behind_start source
  obtain ⟨cursor, located⟩ := calls_lie_in source calls
  have tokens : ∀ token, some (.ok token) ∈ (ofSource source).replies calls → token.Completes :=
    fun token member => Token.LiesIn.completes (located _ member) fits
  constructor
  · exact start.run?_eq fits calls
  · exact cursor.label?_eq fits
  · exact tokens
  · exact fun failure member => Failure.completes (located _ member) fits
  · intro listed given
    exact Listing.completes fun token member => tokens token (given token member)
  · intro bytes
    exact Text.byteCount?_eq (Nat.lt_of_le_of_lt (Text.byteOffset_le source _) bytes)

end Scanner

/-- The same of all that `collect` gives. -/
structure Scan.Completes (result : Scan) (source : String) : Prop where
  collect : (Scanner.ofSource source).collect? = .ok result
  tokens : ∀ token ∈ result.tokens, token.Completes
  failure : ∀ failure, result.failure = some failure → failure.Completes source
  listing : ∀ options, Listing.Completes options result.tokens

/-- No count overflows and no range is reversed, whatever is asked of a scanner and its answers; only
a listing may be too wide to be written. -/
theorem scan_completes (source : String) (fits : source.length + 1 < Word.size) :
    (scan source).Completes source ∧ ∀ calls, Scanner.RunCompletes source calls := by
  refine ⟨?_, Scanner.run_completes fits⟩
  have start := Scanner.behind_start source
  obtain ⟨located, failing⟩ := start.collect
  have tokens : ∀ token ∈ (scan source).tokens, token.Completes :=
    fun token member => (located token member).completes fits
  constructor
  · exact start.collect?_eq fits
  · exact tokens
  · exact fun failure fails => Failure.completes (failing failure fails) fits
  · exact Listing.completes tokens

/-- A number on which nothing overflows, and which a table with locations has no room for. -/
theorem listing_of_wide_number :
    (Text.repeated '1' 65536).length + 1 < Word.size ∧
    (scan (Text.repeated '1' 65536)).failure = none ∧
    Listing.render? ⟨.table, true⟩ (scan (Text.repeated '1' 65536)).tokens = .error .wideColumn := by
  have fits : (Text.repeated '1' 65536).length + 1 < Word.size := by
    rw [Text.repeated, String.length_ofList, List.length_replicate]
    decide
  obtain ⟨finished, wide⟩ := wide_number (by decide : Text.widthLimit < 65536)
  refine ⟨fits, finished, ?_⟩
  rw [Listing.render?, Listing.render_of_wide wide]
  rfl

/-- A number, a failure on the second line, and calls beyond it. -/
theorem scan_completes_past_failure :
    "1\n$".length + 1 < Word.size ∧
    (Scanner.ofSource "1\n$").run? [.next, .next, .next, .nextToken] =
      .ok ([some (.ok ⟨⟨.number, "1"⟩, ⟨0, 0, 0⟩, ⟨1, 0, 1⟩⟩),
        some (.error ⟨⟨2, 1, 0⟩, .unexpectedCharacter '$'⟩), none,
        some (.error ⟨⟨2, 1, 0⟩, .unexpectedCharacter '$'⟩)], ⟨['$'], ⟨2, 1, 0⟩, true⟩) ∧
    Listing.render? ⟨.plain, true⟩ (scan "1\n$").tokens =
      .ok "Token Type: NUMBER, Value: 1, Location: 1:1\n" ∧
    Failure.Completes ⟨⟨2, 1, 0⟩, .unexpectedCharacter '$'⟩ "1\n$" := by
  have fits : "1\n$".length + 1 < Word.size := by decide
  obtain ⟨collected, runs⟩ := scan_completes "1\n$" fits
  have scanned : scan "1\n$" = ⟨[⟨⟨.number, "1"⟩, ⟨0, 0, 0⟩, ⟨1, 0, 1⟩⟩],
      some ⟨⟨2, 1, 0⟩, .unexpectedCharacter '$'⟩, (scan "1\n$").records⟩ := by
    decide +kernel
  refine ⟨fits, ?_, ?_, collected.failure _ (by rw [scanned])⟩
  · rw [(runs [.next, .next, .next, .nextToken]).run]
    rfl
  · have narrow : ¬ Listing.Wide ⟨.plain, true⟩ (scan "1\n$").tokens := by simp [Listing.Wide]
    obtain ⟨output, checked, written⟩ := (collected.listing ⟨.plain, true⟩).fits narrow
    have plain : Listing.plain true (scan "1\n$").tokens =
        "Token Type: NUMBER, Value: 1, Location: 1:1\n" := by decide +kernel
    rw [checked, ← written]
    exact congrArg Except.ok plain

end TokenScan
