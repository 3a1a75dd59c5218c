import TokenScan.Head
import TokenScan.Text.Blank

/-! Which lexemes a source text can be made of, and where the one at its front ends. Main
statements: `read_eq_lexeme_iff` (a lexeme is read exactly when it is well formed and the
next character would not make it longer), `read_eq_unexpected_iff`, `read_eq_unterminated_iff`. -/
namespace TokenScan

def operators : List String :=
  ["+", "-", "*", "/", "%", "=", "!", "<", ">", "<=", ">=", "==", "!="]

/-- The operators that an equals sign directly behind them makes longer. -/
def openOperators : List String := ["<", ">", "=", "!"]

def IsWord (chars : List Char) : Prop :=
  ∃ first rest, chars = first :: rest ∧ first.isAlpha = true ∧ ∀ c ∈ rest, c.isAlphanum = true

/-- The characters that a lexeme can begin with. -/
def Opens (c : Char) : Prop :=
  c.isAlphanum = true ∨ c = '"' ∨ c ∈ operatorSigns ∨ c = '(' ∨ c = ')' ∨ c = ';'

instance (c : Char) : Decidable (Opens c) := by unfold Opens; infer_instance

/-- The characters that may stand outside strings. -/
def Legal (c : Char) : Prop := Text.isBlank c = true ∨ Opens c

instance (c : Char) : Decidable (Legal c) := by unfold Legal; infer_instance

def Blank (chars : List Char) : Prop := ∀ c ∈ chars, Text.isBlank c = true

def Kind.Starts (kind : Kind) (c : Char) : Prop :=
  match kind with
  | .number => c.isDigit = true
  | .identifier | .keyword => c.isAlpha = true
  | .stringLiteral => c = '"'
  | .operator => c ∈ operatorSigns
  | .parenthesis => c = '(' ∨ c = ')'
  | .statementEnd => c = ';'
  | .endOfInput => False

namespace Lexeme

/-- The lexemes that a source text can hold, kind by kind. There is none for its end. -/
inductive WellFormed : Lexeme → Prop where
  | number {text : String} (filled : text.toList ≠ [])
      (digits : ∀ c ∈ text.toList, c.isDigit = true) : WellFormed ⟨.number, text⟩
  | identifier {text : String} (word : IsWord text.toList)
      (free : ∀ keyword : Keyword, text ≠ keyword.spelling) : WellFormed ⟨.identifier, text⟩
  | keyword (keyword : Keyword) : WellFormed ⟨.keyword, keyword.spelling⟩
  | stringLiteral {text : String} (inside : '"' ∉ text.toList) : WellFormed ⟨.stringLiteral, text⟩
  | operator {text : String} (listed : text ∈ operators) : WellFormed ⟨.operator, text⟩
  | parenthesis {text : String} (listed : text = "(" ∨ text = ")") : WellFormed ⟨.parenthesis, text⟩
  | statementEnd : WellFormed ⟨.statementEnd, ";"⟩

/-- The character would be read into the lexeme if it stood directly behind it. -/
def Extends (lexeme : Lexeme) (c : Char) : Prop :=
  match lexeme.kind with
  | .number => c.isDigit = true
  | .identifier | .keyword => c.isAlphanum = true
  | .operator => lexeme.text ∈ openOperators ∧ c = '='
  | _ => False

instance (lexeme : Lexeme) (c : Char) : Decidable (lexeme.Extends c) := by
  unfold Extends; split <;> infer_instance

/-- The lexeme cannot be made longer by what follows it. -/
def Closed (lexeme : Lexeme) (rest : List Char) : Prop := ∀ c, rest.head? = some c → ¬ lexeme.Extends c

@[simp] theorem closed_nil (lexeme : Lexeme) : lexeme.Closed [] := by simp [Closed]

@[simp] theorem closed_cons (lexeme : Lexeme) (c : Char) (rest : List Char) :
    lexeme.Closed (c :: rest) ↔ ¬ lexeme.Extends c := by
  simp [Closed]

end Lexeme

theorem isAlphanum_of_isDigit {c : Char} (digit : c.isDigit = true) : c.isAlphanum = true := by
  rw [Char.isAlphanum, digit, Bool.or_true]

theorem isAlphanum_of_isAlpha {c : Char} (letter : c.isAlpha = true) : c.isAlphanum = true := by
  rw [Char.isAlphanum, letter, Bool.true_or]

theorem IsWord.alphanum {chars : List Char} (word : IsWord chars) :
    ∀ c ∈ chars, c.isAlphanum = true := by
  obtain ⟨first, rest, rfl, letter, others⟩ := word
  intro c member
  rcases List.mem_cons.mp member with rfl | member
  · exact isAlphanum_of_isAlpha letter
  · exact others c member

theorem sign_not_isAlphanum : ∀ sign ∈ operatorSigns, sign.isAlphanum = false := by
  have checked : (operatorSigns.all fun sign => !sign.isAlphanum) = true := rfl
  simpa using checked

theorem sign_not_isBlank : ∀ sign ∈ operatorSigns, Text.isBlank sign = false := by
  have checked : (operatorSigns.all fun sign => !Text.isBlank sign) = true := rfl
  simpa using checked

theorem Kind.Starts.opens {kind : Kind} {c : Char} (starts : kind.Starts c) : Opens c := by
  cases kind
  case number => exact .inl (isAlphanum_of_isDigit starts)
  case identifier => exact .inl (isAlphanum_of_isAlpha starts)
  case keyword => exact .inl (isAlphanum_of_isAlpha starts)
  case stringLiteral => exact .inr (.inl starts)
  case operator => exact .inr (.inr (.inl starts))
  case parenthesis =>
    rcases starts with rfl | rfl
    · exact .inr (.inr (.inr (.inl rfl)))
    · exact .inr (.inr (.inr (.inr (.inl rfl))))
  case statementEnd => exact .inr (.inr (.inr (.inr (.inr starts))))
  case endOfInput => exact starts.elim

theorem isAlpha_iff_toNat {c : Char} : c.isAlpha = true ↔
    (65 ≤ c.toNat ∧ c.toNat ≤ 90) ∨ (97 ≤ c.toNat ∧ c.toNat ≤ 122) := by
  change (decide _ || (_ && _)) = true ↔ _
  rw [Bool.or_eq_true, decide_eq_true_eq, Bool.and_eq_true, decide_eq_true_eq, decide_eq_true_eq]
  rfl

theorem not_isDigit_of_isAlpha {c : Char} (letter : c.isAlpha = true) : c.isDigit = false := by
  rw [Bool.eq_false_iff]
  intro digit
  have placed := isAlpha_iff_toNat.mp letter
  have bounds : 48 ≤ c.toNat ∧ c.toNat ≤ 57 := Char.isDigit_iff_toNat.mp digit
  omega

theorem not_isBlank_of_isAlphanum {c : Char} (letter : c.isAlphanum = true) :
    Text.isBlank c = false := by
  rw [Char.isAlphanum, Bool.or_eq_true, isAlpha_iff_toNat, Char.isDigit_iff_toNat] at letter
  change _ ∨ (48 ≤ c.toNat ∧ c.toNat ≤ 57) at letter
  simp only [Text.isBlank, Text.blankRuns, List.any_cons, List.any_nil, Bool.or_eq_false_iff,
    Bool.and_eq_false_iff, decide_eq_false_iff_not, and_true]
  omega

theorem Opens.not_isBlank {c : Char} (opens : Opens c) : Text.isBlank c = false := by
  rcases opens with letter | rfl | sign | rfl | rfl | rfl
  · exact not_isBlank_of_isAlphanum letter
  · rfl
  · exact sign_not_isBlank c sign
  · rfl
  · rfl
  · rfl

namespace Lexeme

theorem Extends.opens {lexeme : Lexeme} {c : Char} (extends_ : lexeme.Extends c) : Opens c := by
  obtain ⟨kind, text⟩ := lexeme
  cases kind
  case number => exact .inl (isAlphanum_of_isDigit extends_)
  case identifier => exact .inl extends_
  case keyword => exact .inl extends_
  case operator =>
    obtain ⟨_, rfl⟩ := extends_
    exact .inr (.inr (.inl (by simp [operatorSigns])))
  all_goals exact extends_.elim

theorem closed_of_blank {lexeme : Lexeme} {c : Char} (blank : Text.isBlank c = true)
    (rest : List Char) : lexeme.Closed (c :: rest) := by
  rw [closed_cons]
  intro longer
  simp [longer.opens.not_isBlank] at blank

end Lexeme

theorem blank_nil : Blank [] := fun _ member => absurd member List.not_mem_nil

theorem Blank.append {gap more : List Char} (first : Blank gap) (second : Blank more) :
    Blank (gap ++ more) := by
  intro c member
  rcases List.mem_append.mp member with before | behind
  · exact first c before
  · exact second c behind

theorem Blank.closed {gap : List Char} (blank : Blank gap) (lexeme : Lexeme) :
    lexeme.Closed gap := by
  cases gap with
  | nil => exact lexeme.closed_nil
  | cons c rest => exact Lexeme.closed_of_blank (blank c List.mem_cons_self) rest

theorem Lexeme.word_extends_iff {text : String} {c : Char} :
    (Lexeme.word text).Extends c ↔ c.isAlphanum = true := by
  by_cases reserved : (Keyword.ofSpelling? text).isSome = true
  · simp [Lexeme.word, Lexeme.Extends, reserved]
  · simp [Lexeme.word, Lexeme.Extends, reserved]

theorem mem_operators_iff {text : String} : text ∈ operators ↔
    (∃ sign ∈ operatorSigns, text = sign.toString) ∨
    (∃ sign ∈ comparisonSigns, text = String.ofList [sign, '=']) := by
  simp only [operators, operatorSigns, comparisonSigns, List.mem_cons, List.not_mem_nil, or_false,
    exists_eq_or_imp, exists_eq_left, or_assoc]
  rfl

theorem comparisonSigns_subset : comparisonSigns ⊆ operatorSigns := by
  intro sign comparison
  simp only [comparisonSigns, List.mem_cons, List.not_mem_nil, or_false] at comparison
  rcases comparison with rfl | rfl | rfl | rfl
  all_goals simp [operatorSigns]

theorem operator_signs {text : String} (listed : text ∈ operators) :
    ∀ c ∈ text.toList, c ∈ operatorSigns := by
  intro c member
  rcases mem_operators_iff.mp listed with ⟨sign, known, rfl⟩ | ⟨sign, comparison, rfl⟩
  · obtain rfl : c = sign := by simpa using member
    exact known
  · rw [String.toList_ofList] at member
    rcases List.mem_cons.mp member with rfl | member
    · exact comparisonSigns_subset comparison
    · obtain rfl : c = '=' := by simpa using member
      simp [operatorSigns]

theorem toString_mem_openOperators {c : Char} : c.toString ∈ openOperators ↔ c ∈ comparisonSigns := by
  simp [openOperators, comparisonSigns, ← String.toList_inj]

theorem pair_not_mem_openOperators (c d : Char) : String.ofList [c, d] ∉ openOperators := by
  simp [openOperators, ← String.toList_inj]

theorem spelling_isWord (keyword : Keyword) : IsWord keyword.spelling.toList := by
  cases keyword
  all_goals exact ⟨_, _, rfl, rfl, List.all_eq_true.mp rfl⟩

/-- A lexeme takes at least one character, and its kind shows in the first. -/
theorem Lexeme.WellFormed.head_starts {lexeme : Lexeme} (formed : lexeme.WellFormed) :
    ∃ c more, lexeme.written = c :: more ∧ lexeme.kind.Starts c := by
  cases formed with
  | number filled digits =>
    obtain ⟨first, more, same⟩ := List.exists_cons_of_ne_nil filled
    exact ⟨first, more, same, digits first (by simp [same])⟩
  | identifier word _ =>
    obtain ⟨first, more, same, letter, _⟩ := word
    exact ⟨first, more, same, letter⟩
  | keyword keyword =>
    obtain ⟨first, more, same, letter, _⟩ := spelling_isWord keyword
    exact ⟨first, more, same, letter⟩
  | stringLiteral inside => exact ⟨'"', _, rfl, rfl⟩
  | operator listed =>
    rcases mem_operators_iff.mp listed with ⟨sign, member, rfl⟩ | ⟨sign, member, rfl⟩
    · exact ⟨sign, [], by simp [written], member⟩
    · exact ⟨sign, ['='], by simp [written], comparisonSigns_subset member⟩
  | parenthesis listed =>
    rcases listed with rfl | rfl
    · exact ⟨'(', [], rfl, .inl rfl⟩
    · exact ⟨')', [], rfl, .inr rfl⟩
  | statementEnd => exact ⟨';', [], rfl, rfl⟩

theorem Lexeme.WellFormed.kind_ne {lexeme : Lexeme} (formed : lexeme.WellFormed) :
    lexeme.kind ≠ .endOfInput := by
  intro last
  cases formed <;> cases last

theorem Lexeme.WellFormed.written_opens {lexeme : Lexeme} (formed : lexeme.WellFormed) :
    ∃ c more, lexeme.written = c :: more ∧ Opens c := by
  obtain ⟨c, more, same, starts⟩ := formed.head_starts
  exact ⟨c, more, same, starts.opens⟩

namespace Head

theorem head?_dropWhile {inside : Char → Bool} {chars : List Char} {c : Char}
    (next : (chars.dropWhile inside).head? = some c) : inside c = false := by
  have stop := List.head?_dropWhile_not inside chars
  rw [next] at stop
  exact stop

theorem run_append {kind : String → Lexeme} {inside : Char → Bool} {body rest : List Char}
    (member : ∀ c ∈ body, inside c = true) (stop : ∀ c, rest.head? = some c → inside c = false) :
    run kind inside (body ++ rest) = .lexeme (kind (String.ofList body)) rest := by
  have outside : rest.takeWhile inside = [] ∧ rest.dropWhile inside = rest := by
    cases rest with
    | nil => exact ⟨rfl, rfl⟩
    | cons c more => simp [stop c rfl]
  rw [run, List.takeWhile_append_of_pos member, List.dropWhile_append_of_pos member,
    outside.1, outside.2, List.append_nil]

theorem number_read {first : Char} {chars rest : List Char} {found : Lexeme}
    (digit : first.isDigit = true) (reads : run (⟨.number, ·⟩) Char.isDigit (first :: chars) = .lexeme found rest) :
    found.WellFormed ∧ found.Closed rest := by
  simp only [run, Head.lexeme.injEq] at reads
  obtain ⟨rfl, rfl⟩ := reads
  refine ⟨.number ?_ ?_, ?_⟩
  · simp [digit]
  · rw [String.toList_ofList]
    exact List.all_eq_true.mp List.all_takeWhile
  · intro c next longer
    have stop : c.isDigit = false := head?_dropWhile next
    exact absurd longer (by simp [Lexeme.Extends, stop])

theorem word_formed {text : String} (word : IsWord text.toList) : (Lexeme.word text).WellFormed := by
  cases reserved : Keyword.ofSpelling? text with
  | none =>
    have free : ∀ keyword : Keyword, text ≠ keyword.spelling := by
      rintro keyword rfl
      simp at reserved
    simpa [Lexeme.word, reserved] using Lexeme.WellFormed.identifier word free
  | some keyword =>
    have spelt := Keyword.ofSpelling?_eq_some_iff.mp reserved
    subst spelt
    simpa [Lexeme.word] using Lexeme.WellFormed.keyword keyword

theorem word_read {first : Char} {chars rest : List Char} {found : Lexeme}
    (letter : first.isAlpha = true)
    (reads : run Lexeme.word Char.isAlphanum (first :: chars) = .lexeme found rest) :
    found.WellFormed ∧ found.Closed rest := by
  have inside : first.isAlphanum = true := isAlphanum_of_isAlpha letter
  simp only [run, List.takeWhile_cons, List.dropWhile_cons, inside, if_true, Head.lexeme.injEq] at reads
  obtain ⟨rfl, rfl⟩ := reads
  constructor
  · apply word_formed
    rw [String.toList_ofList]
    exact ⟨first, _, rfl, letter, List.all_eq_true.mp List.all_takeWhile⟩
  · intro c next longer
    have stop : c.isAlphanum = false := head?_dropWhile next
    simp [Lexeme.word_extends_iff.mp longer] at stop

theorem signs_read {first : Char} {chars rest : List Char} {found : Lexeme}
    (sign : first ∈ operatorSigns) (reads : signs first chars = .lexeme found rest) :
    found.WellFormed ∧ found.Closed rest := by
  have single : first.toString ∈ operators := mem_operators_iff.mpr (.inl ⟨first, sign, rfl⟩)
  unfold signs at reads
  split at reads
  · split at reads
    · rename_i more comparison
      simp only [Head.lexeme.injEq] at reads
      obtain ⟨rfl, rfl⟩ := reads
      have double : String.ofList [first, '='] ∈ operators :=
        mem_operators_iff.mpr (.inr ⟨first, comparison, rfl⟩)
      exact ⟨.operator double, fun c _ longer => pair_not_mem_openOperators first '=' longer.1⟩
    · rename_i more plain
      simp only [Head.lexeme.injEq] at reads
      obtain ⟨rfl, rfl⟩ := reads
      exact ⟨.operator single, fun c _ longer => plain (toString_mem_openOperators.mp longer.1)⟩
  · rename_i other
    simp only [Head.lexeme.injEq] at reads
    obtain ⟨rfl, rfl⟩ := reads
    refine ⟨.operator single, ?_⟩
    intro c next longer
    cases chars with
    | nil => simp at next
    | cons d more =>
      obtain rfl : d = c := by simpa using next
      exact other _ (by rw [longer.2])

theorem string_read {chars rest : List Char} {found : Lexeme}
    (reads : string chars = .lexeme found rest) : found.WellFormed ∧ found.Closed rest := by
  unfold string at reads
  split at reads
  · simp at reads
  · rename_i inside behind cut
    simp only [Head.lexeme.injEq] at reads
    obtain ⟨rfl, rfl⟩ := reads
    refine ⟨.stringLiteral ?_, fun c _ longer => longer⟩
    rw [String.toList_ofList]
    exact (splitAtQuote_eq_some_iff.mp cut).2

theorem read_formed {chars rest : List Char} {found : Lexeme}
    (reads : read chars = .lexeme found rest) : found.WellFormed ∧ found.Closed rest := by
  unfold read at reads
  split at reads
  · simp at reads
  repeat' split at reads
  · rename_i digit; exact number_read digit reads
  · rename_i letter; exact word_read letter reads
  · exact string_read reads
  · rename_i sign; exact signs_read sign reads
  · rename_i bracket
    simp only [Head.lexeme.injEq] at reads
    obtain ⟨rfl, rfl⟩ := reads
    refine ⟨.parenthesis ?_, fun c _ longer => longer⟩
    rcases bracket with rfl | rfl
    · exact .inl rfl
    · exact .inr rfl
  · simp only [Head.lexeme.injEq] at reads
    obtain ⟨rfl, rfl⟩ := reads
    subst_vars
    exact ⟨.statementEnd, fun c _ longer => longer⟩
  · simp at reads

theorem number_complete {text : String} {rest : List Char} (filled : text.toList ≠ [])
    (digits : ∀ c ∈ text.toList, c.isDigit = true)
    (stop : ∀ c, rest.head? = some c → c.isDigit = false) :
    read (text.toList ++ rest) = .lexeme ⟨.number, text⟩ rest := by
  have whole : run (⟨.number, ·⟩) Char.isDigit (text.toList ++ rest) = .lexeme ⟨.number, text⟩ rest := by
    rw [run_append digits stop, String.ofList_toList]
  rw [← whole]
  obtain ⟨first, more, same⟩ := List.exists_cons_of_ne_nil filled
  have digit : first.isDigit = true := digits first (by simp [same])
  rw [same, List.cons_append, read, if_pos digit]

theorem word_complete {text : String} {rest : List Char} (word : IsWord text.toList)
    (stop : ∀ c, rest.head? = some c → c.isAlphanum = false) :
    read (text.toList ++ rest) = .lexeme (Lexeme.word text) rest := by
  have whole : run Lexeme.word Char.isAlphanum (text.toList ++ rest) = .lexeme (Lexeme.word text) rest := by
    rw [run_append word.alphanum stop, String.ofList_toList]
  obtain ⟨first, more, same, letter, _⟩ := word
  rw [← whole, same, List.cons_append, read, if_neg (by simp [not_isDigit_of_isAlpha letter]), if_pos letter]

theorem read_sign {first : Char} (sign : first ∈ operatorSigns) (rest : List Char) :
    read (first :: rest) = signs first rest := by
  simp only [operatorSigns, List.mem_cons, List.not_mem_nil, or_false] at sign
  rcases sign with rfl | rfl | rfl | rfl | rfl | rfl | rfl | rfl | rfl <;> rfl

theorem operator_complete {text : String} {rest : List Char} (listed : text ∈ operators)
    (closed : Lexeme.Closed ⟨.operator, text⟩ rest) :
    read (text.toList ++ rest) = .lexeme ⟨.operator, text⟩ rest := by
  rcases mem_operators_iff.mp listed with ⟨sign, member, rfl⟩ | ⟨sign, member, rfl⟩
  · simp only [Char.toString_eq_singleton, String.toList_singleton, List.cons_append, List.nil_append]
    rw [read_sign member]
    unfold signs
    split
    · rw [Lexeme.closed_cons] at closed
      have plain : sign ∉ comparisonSigns :=
        fun comparison => closed ⟨toString_mem_openOperators.mpr comparison, rfl⟩
      rw [if_neg plain, Char.toString_eq_singleton]
    · rw [Char.toString_eq_singleton]
  · rw [String.toList_ofList, List.cons_append, List.cons_append, List.nil_append,
      read_sign (comparisonSigns_subset member)]
    simp [signs, member]

theorem string_complete {text : String} (inside : '"' ∉ text.toList) (rest : List Char) :
    read ('"' :: (text.toList ++ '"' :: rest)) = .lexeme ⟨.stringLiteral, text⟩ rest := by
  have cut : splitAtQuote (text.toList ++ '"' :: rest) = some (text.toList, rest) :=
    splitAtQuote_eq_some_iff.mpr ⟨rfl, inside⟩
  have quote : read ('"' :: (text.toList ++ '"' :: rest)) = string (text.toList ++ '"' :: rest) := rfl
  rw [quote, string, cut]
  simp

theorem read_complete {found : Lexeme} {rest : List Char} (formed : found.WellFormed)
    (closed : found.Closed rest) : read (found.written ++ rest) = .lexeme found rest := by
  cases formed with
  | number filled digits =>
    apply number_complete filled digits
    intro c next
    simpa [Lexeme.Extends] using closed c next
  | @identifier text word free =>
    have plain : Keyword.ofSpelling? text = none := by
      cases reserved : Keyword.ofSpelling? text with
      | none => rfl
      | some keyword => exact absurd (Keyword.ofSpelling?_eq_some_iff.mp reserved) (free keyword)
    have same : Lexeme.word text = ⟨.identifier, text⟩ := by simp [Lexeme.word, plain]
    rw [← same, Lexeme.word_written]
    apply word_complete word
    intro c next
    simpa [Lexeme.Extends] using closed c next
  | keyword keyword =>
    have same : Lexeme.word keyword.spelling = ⟨.keyword, keyword.spelling⟩ := by simp [Lexeme.word]
    rw [← same, Lexeme.word_written]
    apply word_complete (spelling_isWord keyword)
    intro c next
    simpa [Lexeme.Extends] using closed c next
  | stringLiteral inside =>
    simp only [Lexeme.written, List.cons_append, List.append_assoc, List.nil_append]
    exact string_complete inside rest
  | operator listed => exact operator_complete listed closed
  | parenthesis listed => rcases listed with rfl | rfl <;> rfl
  | statementEnd => rfl

/-- The longest lexeme is read, and only that. -/
theorem read_eq_lexeme_iff {chars rest : List Char} {found : Lexeme} :
    read chars = .lexeme found rest ↔
      found.WellFormed ∧ found.Closed rest ∧ chars = found.written ++ rest := by
  constructor
  · intro reads
    exact ⟨(read_formed reads).1, (read_formed reads).2, read_written reads⟩
  · rintro ⟨formed, closed, rfl⟩
    exact read_complete formed closed

@[simp] theorem read_eq_nothing_iff {chars : List Char} : read chars = .nothing ↔ chars = [] := by
  constructor
  · intro reads
    unfold read run signs string at reads
    repeat' split at reads
    all_goals simp_all
  · rintro rfl
    rfl

theorem read_of_not_opens {c : Char} (alien : ¬ Opens c) (rest : List Char) :
    read (c :: rest) = .failure (.unexpectedCharacter c) [] (c :: rest) := by
  simp only [Opens, Char.isAlphanum, Bool.or_eq_true, not_or] at alien
  obtain ⟨⟨letter, digit⟩, quote, sign, opening, closing, ending⟩ := alien
  rw [read, if_neg digit, if_neg letter, if_neg quote, if_neg sign,
    if_neg (not_or.mpr ⟨opening, closing⟩), if_neg ending]

theorem read_eq_unexpected_iff {chars passed rest : List Char} {c : Char} :
    read chars = .failure (.unexpectedCharacter c) passed rest ↔
      ¬ Opens c ∧ passed = [] ∧ rest = chars ∧ chars.head? = some c := by
  constructor
  · intro reads
    unfold read run signs string at reads
    repeat' split at reads
    all_goals simp_all [Opens, Char.isAlphanum]
    obtain ⟨rfl, rfl, rfl⟩ := reads
    rfl
  · rintro ⟨alien, rfl, rfl, head⟩
    obtain ⟨more, rfl⟩ := List.head?_eq_some_iff.mp head
    exact read_of_not_opens alien more

theorem read_of_unclosed {inside : List Char} (unclosed : '"' ∉ inside) :
    read ('"' :: inside) = .failure .unterminatedString ('"' :: inside) [] := by
  have quote : read ('"' :: inside) = string inside := rfl
  rw [quote, string, splitAtQuote_eq_none_iff.mpr unclosed]

theorem read_eq_unterminated_iff {chars passed rest : List Char} :
    read chars = .failure .unterminatedString passed rest ↔
      passed = chars ∧ rest = [] ∧ ∃ inside, chars = '"' :: inside ∧ '"' ∉ inside := by
  constructor
  · intro reads
    unfold read run signs string at reads
    repeat' split at reads
    all_goals simp_all [splitAtQuote_eq_none_iff]
    exact ⟨_, reads.1.symm, by assumption⟩
  · rintro ⟨rfl, rfl, inside, rfl, unclosed⟩
    exact read_of_unclosed unclosed

end Head

end TokenScan
