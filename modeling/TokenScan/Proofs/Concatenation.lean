import TokenScan.Proofs.Calls

/-! Two texts, one written directly behind the other. Unless the last lexeme of the first runs
on into the second, the scan of both is the scan of the first, followed by that of the second
with its locations moved behind the first. So a scanner that has given some tokens goes on as
a new one would on the text that is left. -/
namespace TokenScan

/-- Where a location of a text lies once another text, which ends at `place`, stands before it.
Only the first line of the text goes on a line of the other. -/
def Location.shifted (location place : Location) : Location :=
  ⟨location.offset + place.offset, location.line + place.line,
    if location.line = 0 then location.column + place.column else location.column⟩

def Token.shifted (place : Location) (token : Token) : Token :=
  ⟨token.toLexeme, token.start.shifted place, token.finish.shifted place⟩

def Failure.shifted (place : Location) (failure : Failure) : Failure :=
  ⟨failure.location.shifted place, failure.reason⟩

/-- The last token ends where its text does, and the text behind makes it longer. -/
def Fused (tokens : List Token) (finish : Nat) (behind : List Char) : Prop :=
  ∃ last ∈ tokens.getLast?, ∃ c ∈ behind.head?, last.finish.offset = finish ∧ last.Extends c

-- Two options are asked, not all characters.
instance (tokens : List Token) (finish : Nat) (behind : List Char) :
    Decidable (Fused tokens finish behind) :=
  have (last : Token) :
      Decidable (∃ c ∈ behind.head?, last.finish.offset = finish ∧ last.Extends c) :=
    Option.decidableExistsMem behind.head?
  Option.decidableExistsMem tokens.getLast?

def Fuse (first second : String) : Prop := Fused (scan first).tokens first.length second.toList

instance (first second : String) : Decidable (Fuse first second) := by unfold Fuse; infer_instance

theorem Location.shifted_start (place : Location) : Location.start.shifted place = place := by
  simp [shifted, start]

theorem Location.shifted_advance (place location : Location) (c : Char) :
    (location.advance c).shifted place = (location.shifted place).advance c := by
  by_cases feed : c = '\n'
  · simp [advance, shifted, feed]
    omega
  · by_cases first : location.line = 0
    · simp [advance, shifted, feed, first]
      omega
    · simp [advance, shifted, feed, first]
      omega

theorem Location.shifted_past (place location : Location) (chars : List Char) :
    (location.past chars).shifted place = (location.shifted place).past chars := by
  induction chars generalizing location with
  | nil => rfl
  | cons c rest ih => rw [past_cons, ih, shifted_advance, past_cons]

theorem Token.shifted_written (place start : Location) (lexeme : Lexeme) :
    (Token.written lexeme start).shifted place = .written lexeme (start.shifted place) := by
  rw [shifted, written_start, written_finish, Location.shifted_past]
  rfl

variable {start : Location} {chars front rest : List Char} {tokens others : List Token}
  {failure : Option Failure}

/-- Where a text begins makes no difference to its scan but for the locations. -/
theorem Scans.shifted (scans : Scans start chars tokens failure) (place : Location) :
    Scans (start.shifted place) chars (tokens.map (Token.shifted place))
      (failure.map (Failure.shifted place)) := by
  induction scans with
  | blank blank => exact .blank blank
  | @token start gap rest lexeme tokens failure blank formed closed _ ih =>
    rw [Token.written_finish, Location.shifted_past, Location.shifted_past] at ih
    rw [List.map_cons, Token.shifted_written, Location.shifted_past]
    exact .token blank formed closed ih
  | @unexpected start gap rest c blank illegal =>
    rw [Option.map_some, Failure.shifted, Location.shifted_past]
    exact .unexpected blank illegal
  | @unterminated start gap inside blank unclosed =>
    rw [Option.map_some, Failure.shifted, Location.shifted_past]
    exact .unterminated blank unclosed

/-- The scan of a text that begins at `place`, told by the scan of the text by itself. -/
theorem scans_at (place : Location) (source : String) :
    Scans place source.toList ((scan source).tokens.map (Token.shifted place))
      ((scan source).failure.map (Failure.shifted place)) := by
  have moved := (scan_scans source).shifted place
  rwa [Location.shifted_start] at moved

theorem Fused.cons {token : Token} {finish : Nat} {behind : List Char}
    (fused : Fused tokens finish behind) : Fused (token :: tokens) finish behind := by
  obtain ⟨last, ends, more⟩ := fused
  refine ⟨last, ?_, more⟩
  rw [Option.mem_def] at ends ⊢
  rw [List.getLast?_cons, ends, Option.getD_some]

theorem Scans.blank_append {gap : List Char} (blank : Blank gap)
    (scans : Scans (start.past gap) rest others failure) :
    Scans start (gap ++ rest) others failure := by
  cases scans with
  | blank blanks => exact .blank (blank.append blanks)
  | @token _ more left lexeme _ _ blanks formed closed scans =>
    rw [← Location.past_append] at scans ⊢
    rw [← List.append_assoc]
    exact .token (blank.append blanks) formed closed scans
  | @unexpected _ more left c blanks illegal =>
    rw [← Location.past_append, ← List.append_assoc]
    exact .unexpected (blank.append blanks) illegal
  | @unterminated _ more inside blanks unclosed =>
    rw [← Location.past_append, ← List.append_assoc]
    exact .unterminated (blank.append blanks) unclosed

theorem Scans.of_nil (scans : Scans start [] tokens failure) : tokens = [] := by
  generalize empty : ([] : List Char) = chars at scans
  cases scans with
  | @token _ gap left lexeme _ _ _ formed _ _ =>
    obtain ⟨first, more, written, _⟩ := formed.written_opens
    simp [written] at empty
  | blank | unexpected | unterminated => rfl

theorem Token.written_finish_past (start : Location) (gap behind : List Char) (lexeme : Lexeme) :
    (Token.written lexeme (start.past gap)).finish.past behind =
      start.past (gap ++ (lexeme.written ++ behind)) := by
  rw [written_finish, Location.past_append, Location.past_append]

/-- A lexeme that ends its text is followed by whatever stands behind the text. -/
theorem Lexeme.closed_append {lexeme : Lexeme} (closed : lexeme.Closed front)
    (last : front = [] → lexeme.Closed rest) : lexeme.Closed (front ++ rest) := by
  cases front with
  | nil => exact last rfl
  | cons c more =>
    rw [Lexeme.closed_cons] at closed
    rwa [List.cons_append, Lexeme.closed_cons]

theorem Lexeme.Closed.left {lexeme : Lexeme} (closed : lexeme.Closed (front ++ rest)) :
    lexeme.Closed front := by
  intro c head
  apply closed c
  rw [List.head?_append, head]
  rfl

theorem Scans.append (first : Scans start front tokens none)
    (second : Scans (start.past front) rest others failure)
    (apart : ¬ Fused tokens (start.past front).offset rest) :
    Scans start (front ++ rest) (tokens ++ others) failure := by
  generalize finished : (none : Option Failure) = ending at first
  induction first with
  | blank blank => exact second.blank_append blank
  | @token start gap left lexeme tokens _ blank formed closed scans ih =>
    rw [← Token.written_finish_past] at second apart
    have behind := ih second (fun fused => apart fused.cons) finished
    -- Only the last token of the first text can meet the second one.
    have last : left = [] → lexeme.Closed rest := by
      rintro rfl c head longer
      obtain rfl := scans.of_nil
      exact apart ⟨_, rfl, c, head, rfl, longer⟩
    rw [List.append_assoc, List.append_assoc]
    exact .token blank formed (Lexeme.closed_append closed last) behind
  | unexpected => cases finished
  | unterminated => cases finished

/-- What is left of the text behind a token is scanned by itself, and so is what stands before. -/
theorem Scans.cut {early late : List Token} {last : Token}
    (scans : Scans start chars (early ++ late) failure) (ends : early.getLast? = some last) :
    ∃ front rest, chars = front ++ rest ∧ last.finish = start.past front ∧ last.Closed rest ∧
      Scans start front early none ∧ Scans last.finish rest late failure := by
  induction early generalizing start chars with
  | nil => simp at ends
  | cons token early ih =>
    rw [List.cons_append] at scans
    cases scans with
    | @token _ gap left lexeme _ _ blank formed closed scans =>
      cases early with
      | nil =>
        obtain rfl : Token.written lexeme (start.past gap) = last := by simpa using ends
        refine ⟨gap ++ lexeme.written, left, by simp, ?_, closed, ?_, scans⟩
        · rw [Location.past_append]
          rfl
        · have single : Scans start (gap ++ (lexeme.written ++ []))
              [.written lexeme (start.past gap)] none :=
            .token blank formed lexeme.closed_nil (.blank blank_nil)
          rwa [List.append_nil] at single
      | cons second early =>
        rw [List.getLast?_cons_cons] at ends
        obtain ⟨front, rest, rfl, place, longest, before, behind⟩ := ih scans ends
        refine ⟨gap ++ (lexeme.written ++ front), rest, by simp, ?_, longest, ?_, behind⟩
        · rw [place, Token.written_finish_past]
        · exact .token blank formed closed.left before

/-- A token that would be made longer at the end of the first text is none of both together. -/
theorem Scans.not_prefix_of_fused {joined : List Token}
    (scans : Scans start (front ++ rest) joined failure)
    (fused : Fused tokens (start.past front).offset rest) : ¬ tokens <+: joined := by
  rintro ⟨late, rfl⟩
  obtain ⟨last, ends, c, head, place, longer⟩ := fused
  obtain ⟨before, behind, parts, finish, closed, _⟩ := scans.cut ends
  have same : front.length = before.length := by
    rw [finish, Location.past_offset, Location.past_offset] at place
    omega
  obtain ⟨rfl, rfl⟩ := List.append_inj parts same
  exact closed c head longer

namespace Scanner

/-- As many calls as there are tokens to come, of either kind, take one token each. -/
theorem Live.after {finish : Location} {scanner : Scanner} (live : Live finish tokens failure scanner)
    (calls : List Call) (enough : calls.length ≤ tokens.length) :
    Live finish (tokens.drop calls.length) failure (scanner.after calls) := by
  induction calls generalizing scanner tokens with
  | nil => exact live
  | cons call calls ih =>
    cases tokens with
    | nil => simp at enough
    | cons token tokens =>
      obtain ⟨_, _, _, next⟩ := live.of_token call
      exact ih next (by simpa using enough)

end Scanner

/-- After a token the text goes on as if it began there. -/
theorem Scans.resume {source : String} {k : Nat} {token : Token}
    (scans : Scans .start source.toList tokens failure) (there : tokens[k]? = some token) :
    let rest := scan (String.ofList (source.toList.drop token.finish.offset))
    tokens.drop (k + 1) = rest.tokens.map (Token.shifted token.finish) ∧
    failure = rest.failure.map (Failure.shifted token.finish) := by
  intro rest
  have ends : (tokens.take (k + 1)).getLast? = some token := by
    simp [List.getLast?_take, there]
  rw [← List.take_append_drop (k + 1) tokens] at scans
  obtain ⟨front, behind, parts, place, _, _, late⟩ := scans.cut ends
  have left : source.toList.drop token.finish.offset = behind := by
    rw [parts, place, Location.past_start_offset, List.drop_left]
  have fresh := scans_at token.finish (String.ofList (source.toList.drop token.finish.offset))
  rw [String.toList_ofList, left] at fresh
  simp only [rest, left]
  exact late.unique fresh

/-- The scan of two texts in one, and of what is left of a text behind any of its tokens. -/
theorem scan_append (first second : String) :
    ((scan first).failure = none →
      let place := Location.start.past first.toList
      let joined := scan (first ++ second)
      (¬ Fuse first second →
        joined.tokens = (scan first).tokens ++ (scan second).tokens.map (Token.shifted place) ∧
        joined.failure = (scan second).failure.map (Failure.shifted place)) ∧
      (Fuse first second → ¬ (scan first).tokens <+: joined.tokens)) ∧
    ∀ (call : Call) (calls : List Call) (token : Token),
      (scan first).tokens[calls.length]? = some token →
      let resumed := ((Scanner.ofSource first).after (call :: calls)).collect
      let rest := scan (String.ofList (first.toList.drop token.finish.offset))
      resumed.tokens = rest.tokens.map (Token.shifted token.finish) ∧
      resumed.failure = rest.failure.map (Failure.shifted token.finish) := by
  have finish : (Location.start.past first.toList).offset = first.length := by
    rw [Location.past_start_offset, String.length_toList]
  constructor
  · intro whole place joined
    have before := scan_scans first
    rw [whole] at before
    have both := scan_scans (first ++ second)
    rw [String.toList_append] at both
    constructor
    · intro apart
      have behind := scans_at place second
      rw [Fuse, ← finish] at apart
      exact both.unique (before.append behind apart)
    · intro fused
      rw [Fuse, ← finish] at fused
      exact both.not_prefix_of_fused fused
  · intro call calls token there
    obtain ⟨enough, _⟩ := List.getElem?_eq_some_iff.mp there
    have live : Scanner.Live _ (scan first).tokens (scan first).failure (.ofSource first) :=
      ⟨rfl, scan_scans first, rfl⟩
    rw [(live.after (call :: calls) enough).collect]
    exact (scan_scans first).resume there

/-- A second line in the first text, and another one in the second. -/
theorem scan_append_lines :
    (scan "\"a\nb\"<").failure = none ∧ ¬ Fuse "\"a\nb\"<" "y\n$" ∧
    (scan "\"a\nb\"<y\n$").tokens =
      [⟨⟨.stringLiteral, "a\nb"⟩, ⟨0, 0, 0⟩, ⟨5, 1, 2⟩⟩, ⟨⟨.operator, "<"⟩, ⟨5, 1, 2⟩, ⟨6, 1, 3⟩⟩,
        ⟨⟨.identifier, "y"⟩, ⟨6, 1, 3⟩, ⟨7, 1, 4⟩⟩] ∧
    (scan "\"a\nb\"<y\n$").failure = some ⟨⟨8, 2, 0⟩, .unexpectedCharacter '$'⟩ ∧
    ¬ (scan "<").tokens <+: (scan "<=").tokens ∧
    ((Scanner.ofSource "\"a\nb\"<").after [.nextToken]).collect.tokens =
      [⟨⟨.operator, "<"⟩, ⟨5, 1, 2⟩, ⟨6, 1, 3⟩⟩] := by
  have whole : (scan "\"a\nb\"<").failure = none := by decide +kernel
  have apart : ¬ Fuse "\"a\nb\"<" "y\n$" := by decide +kernel
  obtain ⟨joins, resumes⟩ := scan_append "\"a\nb\"<" "y\n$"
  obtain ⟨tokens, failure⟩ := (joins whole).1 apart
  have fused : ¬ (scan "<").tokens <+: (scan "<=").tokens :=
    ((scan_append "<" "=").1 (by decide +kernel)).2 (by decide +kernel)
  have string : (scan "\"a\nb\"<").tokens[0]? =
      some ⟨⟨.stringLiteral, "a\nb"⟩, ⟨0, 0, 0⟩, ⟨5, 1, 2⟩⟩ := by decide +kernel
  obtain ⟨resumed, _⟩ := resumes .nextToken [] _ string
  refine ⟨whole, apart, ?_, ?_, fused, ?_⟩
  · exact tokens.trans (by decide +kernel)
  · exact failure.trans (by decide +kernel)
  · exact resumed.trans (by decide +kernel)

end TokenScan
