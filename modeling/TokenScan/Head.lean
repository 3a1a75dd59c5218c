import TokenScan.Lexeme

/-! What a text begins with. `Head.read` takes the longest lexeme that fits and looks one
character past it. Main statements: `read_written` and `read_failure` (nothing is lost),
`read_shorter` (a lexeme takes at least one character). -/
namespace TokenScan

def operatorSigns : List Char := ['+', '-', '*', '/', '%', '=', '!', '<', '>']

/-- The signs that form one operator with an equals sign directly after them. -/
def comparisonSigns : List Char := ['<', '>', '=', '!']

/-- Why no lexeme can be read. -/
inductive Reason where
  | unexpectedCharacter (character : Char)
  | unterminatedString
  deriving DecidableEq, Repr

namespace Reason

def title : Reason → String
  | .unexpectedCharacter _ => "UnexpectedCharacter"
  | .unterminatedString => "UnterminatedStringLiteral"

def message : Reason → String
  | .unexpectedCharacter c => "Unexpected character: '" ++ c.toString ++ "'"
  | .unterminatedString => "Unterminated string literal"

end Reason

/-- What a text begins with. -/
inductive Head where
  /-- The text is empty. -/
  | nothing
  | lexeme (found : Lexeme) (rest : List Char)
  /-- `passed` has been read in vain; for an unexpected character it is empty. -/
  | failure (reason : Reason) (passed rest : List Char)
  deriving DecidableEq, Repr

namespace Head

/-- The longest run of characters of a class, and what follows it. -/
def run (kind : String → Lexeme) (inside : Char → Bool) (chars : List Char) : Head :=
  .lexeme (kind (String.ofList (chars.takeWhile inside))) (chars.dropWhile inside)

def signs (first : Char) : List Char → Head
  | '=' :: rest =>
    if first ∈ comparisonSigns then .lexeme ⟨.operator, String.ofList [first, '=']⟩ rest
    else .lexeme ⟨.operator, first.toString⟩ ('=' :: rest)
  | rest => .lexeme ⟨.operator, first.toString⟩ rest

/-- What stands before the first quote and what behind it. -/
def splitAtQuote : List Char → Option (List Char × List Char)
  | [] => none
  | c :: rest =>
    if c = '"' then some ([], rest)
    else (splitAtQuote rest).map fun split => (c :: split.1, split.2)

/-- Reads on behind an opening quote. -/
def string (chars : List Char) : Head :=
  match splitAtQuote chars with
  | none => .failure .unterminatedString ('"' :: chars) []
  | some (inside, rest) => .lexeme ⟨.stringLiteral, String.ofList inside⟩ rest

/-- Blanks are not passed over; here they are characters that begin no lexeme. -/
def read : List Char → Head
  | [] => .nothing
  | first :: rest =>
    if first.isDigit then run (⟨.number, ·⟩) Char.isDigit (first :: rest)
    else if first.isAlpha then run Lexeme.word Char.isAlphanum (first :: rest)
    else if first = '"' then string rest
    else if first ∈ operatorSigns then signs first rest
    else if first = '(' ∨ first = ')' then .lexeme ⟨.parenthesis, first.toString⟩ rest
    else if first = ';' then .lexeme ⟨.statementEnd, first.toString⟩ rest
    else .failure (.unexpectedCharacter first) [] (first :: rest)

theorem run_written (kind : String → Lexeme) (inside : Char → Bool) (chars : List Char)
    (plain : ∀ text, (kind text).written = text.toList) {found : Lexeme} {rest : List Char}
    (reads : run kind inside chars = .lexeme found rest) : chars = found.written ++ rest := by
  simp only [run, Head.lexeme.injEq] at reads
  obtain ⟨rfl, rfl⟩ := reads
  simp [plain]

theorem signs_written {first : Char} {chars rest : List Char} {found : Lexeme}
    (reads : signs first chars = .lexeme found rest) : first :: chars = found.written ++ rest := by
  unfold signs at reads
  split at reads
  · split at reads <;>
    · simp only [Head.lexeme.injEq] at reads
      obtain ⟨rfl, rfl⟩ := reads
      simp [Lexeme.written]
  · simp only [Head.lexeme.injEq] at reads
    obtain ⟨rfl, rfl⟩ := reads
    simp [Lexeme.written]

theorem splitAtQuote_eq_some_iff {chars inside rest : List Char} :
    splitAtQuote chars = some (inside, rest) ↔ chars = inside ++ '"' :: rest ∧ '"' ∉ inside := by
  induction chars generalizing inside with
  | nil => simp [splitAtQuote]
  | cons c more ih =>
    by_cases quote : c = '"'
    · subst quote
      cases inside with
      | nil => simp [splitAtQuote,eq_comm]
      | cons d inner =>
        simp only [splitAtQuote, if_true, Option.some.injEq, Prod.mk.injEq, List.nil_eq,
          reduceCtorEq, false_and, false_iff, not_and, List.cons_append, List.cons.injEq]
        rintro ⟨rfl, _⟩
        simp
    · cases inside with
      | nil => simp [splitAtQuote,quote]
      | cons d inner =>
        simp only [splitAtQuote, quote, if_false, Option.map_eq_some_iff, Prod.mk.injEq,
          List.cons.injEq, Prod.exists]
        constructor
        · rintro ⟨inner, _, found, ⟨rfl, rfl⟩, rfl⟩
          have := ih.mp found
          simp [this, Ne.symm quote]
        · rintro ⟨whole, apart⟩
          simp only [List.cons_append, List.cons.injEq] at whole
          simp only [List.mem_cons, not_or] at apart
          exact ⟨inner, rest, ih.mpr ⟨whole.2, apart.2⟩, ⟨whole.1, rfl⟩, rfl⟩

theorem splitAtQuote_eq_none_iff {chars : List Char} :
    splitAtQuote chars = none ↔ '"' ∉ chars := by
  induction chars with
  | nil => simp [splitAtQuote]
  | cons c more ih =>
    by_cases quote : c = '"'
    · simp [splitAtQuote,quote]
    · simp [splitAtQuote,quote,ih,Ne.symm quote]

theorem string_written {chars rest : List Char} {found : Lexeme}
    (reads : string chars = .lexeme found rest) : '"' :: chars = found.written ++ rest := by
  unfold string at reads
  split at reads
  · simp at reads
  · rename_i inside behind split
    simp only [Head.lexeme.injEq] at reads
    obtain ⟨rfl, rfl⟩ := reads
    simp [Lexeme.written, (splitAtQuote_eq_some_iff.mp split).1]

/-- Nothing is lost: the lexeme as written and the rest make up the text. -/
theorem read_written {chars rest : List Char} {found : Lexeme}
    (reads : read chars = .lexeme found rest) : chars = found.written ++ rest := by
  unfold read at reads
  split at reads
  · simp at reads
  repeat' split at reads
  · exact run_written _ _ _ (fun _ => rfl) reads
  · exact run_written _ _ _ Lexeme.word_written reads
  · subst_vars; exact string_written reads
  · exact signs_written reads
  all_goals simp_all [Lexeme.written]
  all_goals obtain ⟨rfl, rfl⟩ := reads; simp

theorem run_shorter {kind : String → Lexeme} {inside : Char → Bool} {first : Char}
    {chars rest : List Char} {found : Lexeme} (belongs : inside first = true)
    (reads : run kind inside (first :: chars) = .lexeme found rest) :
    rest.length ≤ chars.length := by
  simp only [run, Head.lexeme.injEq, List.dropWhile_cons, belongs, if_true] at reads
  rw [← reads.2]
  exact (List.dropWhile_sublist _).length_le

theorem signs_shorter {first : Char} {chars rest : List Char} {found : Lexeme}
    (reads : signs first chars = .lexeme found rest) : rest.length ≤ chars.length := by
  unfold signs at reads
  split at reads
  · split at reads <;> simp_all
  · simp_all

theorem string_shorter {chars rest : List Char} {found : Lexeme}
    (reads : string chars = .lexeme found rest) : rest.length ≤ chars.length := by
  have := congrArg List.length (string_written reads)
  have quotes : 1 ≤ found.written.length := by
    unfold string at reads
    split at reads <;> simp_all [Lexeme.written]
    simp [← reads.1]
  simp only [List.length_cons, List.length_append] at this
  omega

/-- A lexeme takes at least one character. -/
theorem read_shorter {chars rest : List Char} {found : Lexeme}
    (reads : read chars = .lexeme found rest) : rest.length < chars.length := by
  unfold read at reads
  split at reads
  · simp at reads
  rename_i first more
  suffices rest.length ≤ more.length by simp only [List.length_cons]; omega
  repeat' split at reads
  · rename_i digit; exact run_shorter digit reads
  · rename_i letter; exact run_shorter (by simp [Char.isAlphanum,letter]) reads
  · exact string_shorter reads
  · exact signs_shorter reads
  all_goals simp_all

/-- Reading in vain loses nothing either. -/
theorem read_failure {chars passed rest : List Char} {reason : Reason}
    (reads : read chars = .failure reason passed rest) : chars = passed ++ rest := by
  unfold read run signs string at reads
  repeat' split at reads
  all_goals simp_all

end Head

end TokenScan
