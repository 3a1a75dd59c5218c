import TokenScan.Proofs.Scanning

/-! A scan cuts its text into longest lexemes and blanks, up to the end of the text or to the
failure. Offsets count characters; `bytes` adds that cutting the encoded text at the matching
byte places gives the same pieces. -/
namespace TokenScan

/-- How many bytes the first characters of a text take. -/
def Text.byteOffset (source : String) (count : Nat) : Nat :=
  (String.ofList (source.toList.take count)).utf8ByteSize

/-- The offset at which a scan stops: that of its failure, or else the end of the text. -/
def stop (finish : Nat) : Option Failure → Nat
  | none => finish
  | some failure => failure.location.offset

/-- Characters at either edge of a token that are not part of its text. -/
def Kind.quotes : Kind → Nat
  | .stringLiteral => 1
  | _ => 0

def Token.Covers (token : Token) (i : Nat) : Prop := token.start.offset ≤ i ∧ i < token.finish.offset

/-- The token is what its stretch of the text says, and no longer token begins there. -/
structure Token.StandsIn (token : Token) (source : String) : Prop where
  slice : source.toList.extract token.start.offset token.finish.offset = token.toLexeme.written
  bytes : source.toByteArray.extract
    (Text.byteOffset source (token.start.offset + token.kind.quotes))
    (Text.byteOffset source (token.finish.offset - token.kind.quotes)) = token.text.toByteArray
  formed : token.WellFormed
  longest : ∀ c, source.toList[token.finish.offset]? = some c → ¬ token.Extends c
  reserved : token.kind = .identifier ∨ token.kind = .keyword →
    (token.kind = .keyword ↔ ∃ keyword : Keyword, token.text = keyword.spelling)
  keyword : ∀ keyword, token.keyword? = some keyword ↔
    token.kind = .keyword ∧ token.text = keyword.spelling

structure Scan.Partitions (result : Scan) (source : String) : Prop where
  bounded : stop source.length result.failure ≤ source.length
  filled : ∀ token ∈ result.tokens, token.start.offset < token.finish.offset
  ordered : result.tokens.Pairwise fun first second => first.finish.offset ≤ second.start.offset
  within : ∀ token ∈ result.tokens, token.finish.offset ≤ stop source.length result.failure
  blank : ∀ i, i < stop source.length result.failure →
    (∀ token ∈ result.tokens, ¬ token.Covers i) →
    ∃ c, source.toList[i]? = some c ∧ Text.isBlank c = true
  lexical : ∀ token ∈ result.tokens, token.StandsIn source

variable {start : Location} {chars : List Char} {tokens : List Token} {failure : Option Failure}

/-- Each token is a lexeme written in the text at its own place, and longest there. -/
theorem Scans.placed (scans : Scans start chars tokens failure) {token : Token}
    (member : token ∈ tokens) : ∃ before behind,
      chars = before ++ (token.toLexeme.written ++ behind) ∧
      token = .written token.toLexeme (start.past before) ∧
      token.WellFormed ∧ token.Closed behind := by
  induction scans with
  | blank => simp at member
  | @token start gap rest lexeme tokens failure blank formed closed _ ih =>
    rcases List.mem_cons.mp member with rfl | later
    · exact ⟨gap, rest, rfl, rfl, formed, closed⟩
    · obtain ⟨before, behind, rfl, place, formed, closed⟩ := ih later
      refine ⟨gap ++ (lexeme.written ++ before), behind, by simp, ?_, formed, closed⟩
      rw [Location.past_append, Location.past_append]
      exact place
  | unexpected => simp at member
  | unterminated => simp at member

theorem Scans.start_le (scans : Scans start chars tokens failure) {token : Token}
    (member : token ∈ tokens) : start.offset ≤ token.start.offset := by
  obtain ⟨before, _, _, place, _⟩ := scans.placed member
  rw [place, Token.written_start, Location.past_offset]
  exact Nat.le_add_right _ _

theorem Scans.filled (scans : Scans start chars tokens failure) {token : Token}
    (member : token ∈ tokens) : token.start.offset < token.finish.offset := by
  obtain ⟨before, _, _, place, formed, _⟩ := scans.placed member
  obtain ⟨first, more, same, _⟩ := formed.written_opens
  rw [place, Token.written_start, Token.written_finish, Location.past_offset, same]
  simp only [Location.past_offset, List.length_cons]
  omega

theorem Scans.ordered (scans : Scans start chars tokens failure) :
    tokens.Pairwise fun first second => first.finish.offset ≤ second.start.offset := by
  induction scans with
  | blank => exact .nil
  | token _ _ _ others ih => exact .cons (fun _ later => others.start_le later) ih
  | unexpected => exact .nil
  | unterminated => exact .nil

/-- Reading on behind a token moves the front of the text, not its end. -/
theorem finish_add_length (start : Location) (gap rest : List Char) (lexeme : Lexeme) :
    (Token.written lexeme (start.past gap)).finish.offset + rest.length =
      start.offset + (gap ++ (lexeme.written ++ rest)).length := by
  simp only [Token.written_finish, Location.past_offset, List.length_append]
  omega

theorem Scans.stop_bounds (scans : Scans start chars tokens failure) :
    start.offset ≤ stop (start.offset + chars.length) failure ∧
    stop (start.offset + chars.length) failure ≤ start.offset + chars.length := by
  induction scans with
  | blank => simp [stop]
  | @token start gap rest lexeme tokens failure _ _ _ _ ih =>
    rw [finish_add_length start gap rest lexeme] at ih
    refine ⟨?_, ih.2⟩
    have := ih.1
    simp only [Token.written_finish, Location.past_offset] at this
    omega
  | unexpected => simp [stop]
  | unterminated => simp [stop]

theorem Scans.within (scans : Scans start chars tokens failure) {token : Token}
    (member : token ∈ tokens) : token.finish.offset ≤ stop (start.offset + chars.length) failure := by
  induction scans with
  | blank => simp at member
  | @token start gap rest lexeme tokens failure _ _ _ others ih =>
    rw [← finish_add_length start gap rest lexeme]
    rcases List.mem_cons.mp member with rfl | later
    · exact others.stop_bounds.1
    · exact ih later
  | unexpected => simp at member
  | unterminated => simp at member

theorem blank_at {gap : List Char} (blank : Blank gap) (ahead : List Char) {i : Nat}
    (inside : i < gap.length) : ∃ c, (gap ++ ahead)[i]? = some c ∧ Text.isBlank c = true := by
  refine ⟨gap[i], ?_, blank _ (List.getElem_mem inside)⟩
  rw [List.getElem?_append_left inside, List.getElem?_eq_getElem inside]

theorem Scans.uncovered_blank (scans : Scans start chars tokens failure) {i : Nat}
    (before : start.offset + i < stop (start.offset + chars.length) failure)
    (uncovered : ∀ token ∈ tokens, ¬ token.Covers (start.offset + i)) :
    ∃ c, chars[i]? = some c ∧ Text.isBlank c = true := by
  induction scans generalizing i with
  | @blank start gap blank =>
    have inside : i < gap.length := by simpa [stop] using before
    simpa using blank_at blank [] inside
  | @token start gap rest lexeme tokens failure blank _ _ _ ih =>
    by_cases front : i < gap.length
    · exact blank_at blank _ front
    by_cases written : i < gap.length + lexeme.written.length
    · have covered := uncovered _ List.mem_cons_self
      simp only [Token.Covers, Token.written_start, Token.written_finish, Location.past_offset] at covered
      omega
    -- From here on the text behind the token is the one that is read.
    obtain ⟨k, rfl⟩ : ∃ k, i = gap.length + (lexeme.written.length + k) :=
      ⟨i - gap.length - lexeme.written.length, by omega⟩
    have shift : (Token.written lexeme (start.past gap)).finish.offset + k =
        start.offset + (gap.length + (lexeme.written.length + k)) := by
      simp only [Token.written_finish, Location.past_offset]
      omega
    rw [← finish_add_length start gap rest lexeme, ← shift] at before
    have behind := ih before (fun token later => shift ▸ uncovered token (List.mem_cons_of_mem _ later))
    rwa [List.getElem?_append_right (by omega), List.getElem?_append_right (by omega),
      show gap.length + (lexeme.written.length + k) - gap.length - lexeme.written.length = k from by omega]
  | @unexpected start gap rest c blank _ =>
    have inside : i < gap.length := by simpa [stop] using before
    exact blank_at blank _ inside
  | @unterminated start gap inner blank _ =>
    have inside : i < gap.length := by simpa [stop] using before
    exact blank_at blank _ inside

/-- Cutting the encoded text between characters gives the encoding of what is cut out. -/
theorem Text.extract_toByteArray {source : String} {before middle behind : List Char}
    (parts : source.toList = before ++ (middle ++ behind)) :
    source.toByteArray.extract (byteOffset source before.length)
      (byteOffset source (before.length + middle.length)) = (String.ofList middle).toByteArray := by
  have whole : source = String.ofList before ++ (String.ofList middle ++ String.ofList behind) := by
    rw [← String.ofList_append, ← String.ofList_append, ← parts, String.ofList_toList]
  have first : byteOffset source before.length = (String.ofList before).toByteArray.size := by
    rw [byteOffset, parts, List.take_left, String.size_toByteArray]
  have last : byteOffset source (before.length + middle.length) =
      (String.ofList before).toByteArray.size + (String.ofList middle).toByteArray.size := by
    rw [byteOffset, parts, ← List.append_assoc, ← List.length_append, List.take_left,
      String.ofList_append, String.utf8ByteSize_append, String.size_toByteArray, String.size_toByteArray]
  have skip := ByteArray.extract_append_size_add (a := (String.ofList before).toByteArray)
    (b := (String.ofList middle).toByteArray ++ (String.ofList behind).toByteArray) (i := 0)
    (j := (String.ofList middle).toByteArray.size)
  rw [Nat.add_zero] at skip
  rw [first, last, whole, String.toByteArray_append, String.toByteArray_append, skip,
    ByteArray.extract_append_eq_left rfl]

theorem Lexeme.written_eq (lexeme : Lexeme) : lexeme.written =
    List.replicate lexeme.kind.quotes '"' ++
      (lexeme.text.toList ++ List.replicate lexeme.kind.quotes '"') := by
  obtain ⟨kind, text⟩ := lexeme
  cases kind <;> simp [Lexeme.written, Kind.quotes]

theorem Lexeme.WellFormed.reserved {lexeme : Lexeme} (formed : lexeme.WellFormed)
    (word : lexeme.kind = .identifier ∨ lexeme.kind = .keyword) :
    lexeme.kind = .keyword ↔ ∃ keyword : Keyword, lexeme.text = keyword.spelling := by
  cases formed with
  | identifier _ free =>
    constructor
    · rintro ⟨⟩
    · rintro ⟨keyword, same⟩
      exact absurd same (free keyword)
  | keyword keyword => exact ⟨fun _ => ⟨keyword, rfl⟩, fun _ => rfl⟩
  | number | stringLiteral | operator | parenthesis | statementEnd => simp at word

theorem Lexeme.keyword?_eq_some_iff {lexeme : Lexeme} {keyword : Keyword} :
    lexeme.keyword? = some keyword ↔ lexeme.kind = .keyword ∧ lexeme.text = keyword.spelling := by
  rw [← Keyword.ofSpelling?_eq_some_iff]
  unfold Lexeme.keyword?
  cases lexeme.kind <;> simp

theorem Scans.standsIn {source : String} (scans : Scans .start source.toList tokens failure)
    {token : Token} (member : token ∈ tokens) : token.StandsIn source := by
  obtain ⟨before, behind, parts, place, formed, closed⟩ := scans.placed member
  have start : token.start.offset = before.length := by
    rw [place, Token.written_start, Location.past_offset]
    exact Nat.zero_add _
  have finish : token.finish.offset = before.length + token.toLexeme.written.length := by
    rw [← start, place]
    simp
  constructor
  · rw [start, finish, parts]
    simp
  · have inner : source.toList = (before ++ List.replicate token.kind.quotes '"') ++
        (token.text.toList ++ (List.replicate token.kind.quotes '"' ++ behind)) := by
      rw [parts, Lexeme.written_eq]
      simp
    have cut := Text.extract_toByteArray inner
    rw [String.ofList_toList, List.length_append, List.length_replicate] at cut
    rw [start, finish, Lexeme.written_eq]
    simp only [List.length_append, List.length_replicate]
    rw [show before.length + (token.kind.quotes + (token.text.toList.length + token.kind.quotes)) -
      token.kind.quotes = before.length + token.kind.quotes + token.text.toList.length from by omega]
    exact cut
  · exact formed
  · intro c next
    apply closed c
    rwa [finish, parts, ← List.append_assoc, ← List.length_append,
      List.getElem?_append_right (Nat.le_refl _), Nat.sub_self, ← List.head?_eq_getElem?] at next
  · exact formed.reserved
  · exact fun keyword => Lexeme.keyword?_eq_some_iff

/-- Soundness of a scan, whether or not it ends in a failure. -/
theorem scan_partitions (source : String) : (scan source).Partitions source := by
  have scans := scan_scans source
  have size : Location.start.offset + source.toList.length = source.length := by
    rw [String.length_toList]
    exact Nat.zero_add _
  constructor
  · exact size ▸ scans.stop_bounds.2
  · exact fun token member => scans.filled member
  · exact scans.ordered
  · exact fun token member => size ▸ scans.within member
  · intro i before uncovered
    have zero : Location.start.offset + i = i := Nat.zero_add i
    exact scans.uncovered_blank (by rwa [size, zero]) (by rwa [zero])
  · exact fun token member => scans.standsIn member

end TokenScan
