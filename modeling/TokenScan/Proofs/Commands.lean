import Mathlib.Data.List.Forall2
import TokenScan.Proofs.Verbosity

/-! Which lines are commands. A command is a dot and a word, in either case and with blanks around
it at will; what makes a line a command line is the dot alone, wherever the blanks before it end.
No source text that can be scanned begins so: scanning a command line stops at its dot, before any
token. -/
namespace TokenScan

/-- `core` is the text without the blanks at its front and at its back. -/
structure Text.Trims (chars core : List Char) : Prop where
  parts : ∃ front back, chars = front ++ (core ++ back) ∧ Blank front ∧ Blank back
  first : ∀ c, core.head? = some c → isBlank c = false
  last : ∀ c, core.getLast? = some c → isBlank c = false

namespace Text

/-- Blanks at the front are dropped, and no other character is. -/
theorem dropBlanks_append {front rest : List Char} (blank : Blank front)
    (stop : ∀ c, rest.head? = some c → isBlank c = false) : dropBlanks (front ++ rest) = rest :=
  (takeWhile_blank blank stop).2

theorem dropBlanks_parts (chars : List Char) : ∃ front, chars = front ++ dropBlanks chars ∧
    Blank front ∧ ∀ c, (dropBlanks chars).head? = some c → isBlank c = false := by
  refine ⟨chars.takeWhile isBlank, List.takeWhile_append_dropWhile.symm, ?_, ?_⟩
  · exact List.all_eq_true.mp List.all_takeWhile
  · exact fun c next => Head.head?_dropWhile next

theorem blank_reverse {gap : List Char} (blank : Blank gap) : Blank gap.reverse :=
  fun c member => blank c (List.mem_reverse.mp member)

theorem trims_trim (text : String) : Trims text.toList (trim text).toList := by
  obtain ⟨front, parts, blank, stop⟩ := dropBlanks_parts text.toList
  obtain ⟨back, behind, rear, ends⟩ := dropBlanks_parts (dropBlanks text.toList).reverse
  have core : (trim text).toList = (dropBlanks (dropBlanks text.toList).reverse).reverse := by
    rw [trim, String.toList_ofList]
  have kept : dropBlanks text.toList = (trim text).toList ++ back.reverse := by
    rw [core, ← List.reverse_append, ← behind, List.reverse_reverse]
  rw [kept] at parts
  refine ⟨⟨front, back.reverse, parts, blank, blank_reverse rear⟩, ?_, ?_⟩
  · intro c next
    apply stop c
    rw [kept, List.head?_append, next]
    rfl
  · intro c next
    rw [core, List.getLast?_reverse] at next
    exact ends c next

theorem Trims.trim_eq {text : String} {core : List Char} (trims : Trims text.toList core) :
    trim text = String.ofList core := by
  obtain ⟨⟨front, back, parts, blank, rear⟩, first, last⟩ := trims
  cases core with
  | nil =>
    have blanks : allBlank text = true := by
      rw [allBlank, parts]
      exact List.all_eq_true.mpr (blank.append rear)
    exact (trim_eq_empty_iff text).mpr blanks
  | cons c more =>
    have stop : ∀ d, (c :: more ++ back).head? = some d → isBlank d = false := by
      simpa using first
    have ends : ∀ d, (c :: more).reverse.head? = some d → isBlank d = false := by
      intro d next
      rw [List.head?_reverse] at next
      exact last d next
    rw [trim, parts, dropBlanks_append blank stop, List.reverse_append,
      dropBlanks_append (blank_reverse rear) ends, List.reverse_reverse]

theorem trim_eq_iff {text : String} {core : List Char} :
    trim text = String.ofList core ↔ Trims text.toList core := by
  constructor
  · intro same
    have trims := trims_trim text
    rwa [same, String.toList_ofList] at trims
  · exact Trims.trim_eq

end Text

theorem toNat_toLower (c : Char) : c.toLower.toNat =
    if 65 ≤ c.toNat ∧ c.toNat ≤ 90 then c.toNat + 32 else c.toNat := by
  unfold Char.toLower
  split
  · rename_i capital
    have low : 65 ≤ c.toNat := UInt32.le_iff_toNat_le.mp capital.1
    have high : c.toNat ≤ 90 := UInt32.le_iff_toNat_le.mp capital.2
    rw [if_pos ⟨low, high⟩]
    change (c.toNat + 32) % 2 ^ 32 = c.toNat + 32
    omega
  · rename_i other
    rw [if_neg]
    rintro ⟨low, high⟩
    exact other ⟨UInt32.le_iff_toNat_le.mpr low, UInt32.le_iff_toNat_le.mpr high⟩

theorem toNat_toUpper (c : Char) : c.toUpper.toNat =
    if 97 ≤ c.toNat ∧ c.toNat ≤ 122 then c.toNat - 32 else c.toNat := by
  unfold Char.toUpper
  split
  · rename_i small
    have low : 97 ≤ c.val.toNat := UInt32.le_iff_toNat_le.mp small.1
    have high : c.val.toNat ≤ 122 := UInt32.le_iff_toNat_le.mp small.2
    have offset : ('A'.val - 'a'.val).toNat = 2 ^ 32 - 32 := by decide
    rw [if_pos ⟨low, high⟩]
    change (c.val + ('A'.val - 'a'.val)).toNat = c.val.toNat - 32
    rw [UInt32.toNat_add, offset]
    omega
  · rename_i other
    rw [if_neg]
    rintro ⟨low, high⟩
    exact other ⟨UInt32.le_iff_toNat_le.mpr low, UInt32.le_iff_toNat_le.mpr high⟩

theorem toLower_eq_iff {c letter : Char} (small : letter.toLower = letter) :
    c.toLower = letter ↔ c = letter ∨ c = letter.toUpper := by
  simp only [← Char.toNat_inj, toNat_toLower, toNat_toUpper] at small ⊢
  split at small
  · omega
  · split <;> split <;> omega

namespace Session

/-- The character stands for a letter of a command: it is that letter in either case, or the
Kelvin sign in the place of a k. -/
def StandsFor (c letter : Char) : Prop :=
  c = letter ∨ c = letter.toUpper ∨ c = '\u212a' ∧ letter = 'k'

theorem lowered_eq_iff {c letter : Char} (small : letter.toLower = letter)
    (plain : letter ≠ '\u212a') : lowered c = letter ↔ StandsFor c letter := by
  have capital : letter.toUpper ≠ '\u212a' := by
    intro kelvin
    have number := congrArg Char.toNat kelvin
    have apart := fun same => plain (Char.toNat_inj.mp same)
    rw [toNat_toUpper] at number
    split at number
    · have bound : Char.toNat '\u212a' = 8490 := rfl
      omega
    · exact apart number
  unfold lowered StandsFor
  split
  · rename_i kelvin
    subst kelvin
    constructor
    · rintro rfl
      exact .inr (.inr ⟨rfl, rfl⟩)
    · rintro (same | same | ⟨_, same⟩)
      · exact absurd same.symm plain
      · exact absurd same.symm capital
      · exact same.symm
  · rename_i other
    rw [toLower_eq_iff small]
    simp [other]

/-- The words of a command, in small letters. -/
def Command.words : Command → List String
  | .help => ["help", "h", "?"]
  | .exit => ["exit", "quit", "q"]
  | .keywords => ["keywords", "k"]

/-- The characters spell a word of the command, letter by letter. -/
def Command.Spelt (command : Command) (chars : List Char) : Prop :=
  ∃ word ∈ command.words, List.Forall₂ StandsFor chars word.toList

theorem Command.words_small (command : Command) :
    ∀ word ∈ command.words, ∀ letter ∈ word.toList, letter.toLower = letter ∧ letter ≠ '\u212a' := by
  have small : command.words.all (fun word => word.toList.all fun letter =>
      letter.toLower == letter && letter != '\u212a') = true := by
    cases command <;> rfl
  simpa using small

theorem map_lowered_eq_iff {chars letters : List Char}
    (small : ∀ letter ∈ letters, letter.toLower = letter ∧ letter ≠ '\u212a') :
    chars.map lowered = letters ↔ List.Forall₂ StandsFor chars letters := by
  induction letters generalizing chars with
  | nil => simp
  | cons letter others ih =>
    obtain ⟨⟨first, plain⟩, rest⟩ := List.forall_mem_cons.mp small
    cases chars with
    | nil => simp
    | cons c more =>
      rw [List.map_cons, List.cons.injEq, lowered_eq_iff first plain, ih rest, List.forall₂_cons]

theorem Command.ofWord?_eq_some_iff {word : String} {command : Command} :
    ofWord? word = some command ↔ word ∈ command.words := by
  constructor
  · intro found
    unfold ofWord? at found
    split at found
    · cases found; assumption
    split at found
    · cases found; assumption
    split at found
    · cases found; assumption
    · cases found
  · intro listed
    cases command
    all_goals
      simp only [words, List.mem_cons, List.not_mem_nil, or_false] at listed
      rcases listed with rfl | rfl | rfl <;> rfl

/-- A command is read off a line exactly if a word of it stands behind the dot, and nothing else. -/
theorem Command.parse_eq_some_iff {line : String} {command : Command} :
    Command.parse line = some command ↔
      ∃ word, Text.Trims line.toList ('.' :: word) ∧ command.Spelt word := by
  have spelt (word : List Char) :
      ofWord? (String.ofList (word.map lowered)) = some command ↔ command.Spelt word := by
    rw [ofWord?_eq_some_iff]
    constructor
    · intro listed
      refine ⟨_, listed, ?_⟩
      rw [← map_lowered_eq_iff (command.words_small _ listed), String.toList_ofList]
    · rintro ⟨name, listed, letters⟩
      rwa [(map_lowered_eq_iff (command.words_small _ listed)).mpr letters, String.ofList_toList]
  constructor
  · intro found
    unfold Command.parse at found
    split at found
    · rename_i word trimmed
      exact ⟨word, trimmed ▸ Text.trims_trim line, (spelt word).mp found⟩
    · cases found
  · rintro ⟨word, trims, letters⟩
    rw [Command.parse, trims.trim_eq, String.toList_ofList]
    exact (spelt word).mpr letters

/-- What a command line is answered with. -/
def commandAnswer (line : String) : Report :=
  match Command.parse line with
  | some .help => ⟨0, [help]⟩
  | some .keywords => ⟨0, [keywords]⟩
  | some .exit => ⟨0, []⟩
  | none => ⟨0, [unknownCommand line]⟩

/-- What a line is answered with that is a source text. -/
def sourceAnswer (options : Listing.Options) (line : String) : Report :=
  ((scan line).shown options "<repl>" line).behind (scan line).log

variable {line : String}

theorem firstShown_of_gap {gap rest : List Char} {c : Char} (parts : line.toList = gap ++ c :: rest)
    (blank : Blank gap) (shown : Text.isBlank c = false) : Text.firstShown line = some c := by
  apply List.find?_eq_some_iff_append.mpr
  refine ⟨by simp [shown], gap, rest, parts, ?_⟩
  intro d member
  simp [blank d member]

theorem firstShown_of_parse {command : Command} (parse : Command.parse line = some command) :
    Text.firstShown line = some '.' := by
  obtain ⟨word, ⟨⟨front, back, parts, blank, _⟩, _, _⟩, _⟩ := Command.parse_eq_some_iff.mp parse
  exact firstShown_of_gap (by simpa using parts) blank (by decide)

/-- The log tells the answers apart: a line that is scanned leaves a record in any case. -/
theorem sourceAnswer_logged (shown : ¬ Text.allBlank line = true) (options : Listing.Options) :
    ∃ record others, (sourceAnswer options line).emissions = .log record :: others := by
  have found : (scan line).records ≠ [] := by
    intro silent
    rw [scan_records, List.append_eq_nil_iff, List.map_eq_nil_iff, List.map_eq_nil_iff,
      Option.toList_eq_nil_iff] at silent
    exact shown ((scan_empty_iff line).mp silent)
  obtain ⟨record, records, recorded⟩ := List.exists_cons_of_ne_nil found
  refine ⟨record, records.map .log ++ ((scan line).shown options "<repl>" line).emissions, ?_⟩
  rw [sourceAnswer, Scan.log, recorded]
  rfl

/-- A line that is not blank is answered as a command if its first character other than a blank is a
dot, and as a source text if it is another one; the two answers differ. -/
theorem respond_cases (shown : ¬ Text.allBlank line = true) (options : Listing.Options) :
    (respond options line = commandAnswer line ↔ Text.firstShown line = some '.') ∧
    (respond options line = sourceAnswer options line ↔ Text.firstShown line ≠ some '.') := by
  obtain ⟨record, others, logged⟩ := sourceAnswer_logged shown options
  by_cases dot : Text.firstShown line = some '.'
  · have answered : respond options line = commandAnswer line := by
      refine (respond_of_command dot options).trans ?_
      unfold commandAnswer
      cases Command.parse line with
      | none => rfl
      | some command => cases command <;> rfl
    have silent := command_unlogged dot options
    have apart : respond options line ≠ sourceAnswer options line := by
      intro same
      rw [same, logged] at silent
      exact silent _ List.mem_cons_self record rfl
    exact ⟨iff_of_true answered dot, iff_of_false apart (not_not_intro dot)⟩
  · obtain ⟨c, first⟩ := Option.ne_none_iff_exists'.mp (mt firstShown_eq_none_iff.mp shown)
    have plain : c ≠ '.' := by
      rintro rfl
      exact dot first
    have answered : respond options line = sourceAnswer options line :=
      respond_of_scanned first plain options
    have wordless : Command.parse line = none :=
      Option.eq_none_iff_forall_ne_some.mpr fun _ parse => dot (firstShown_of_parse parse)
    have apart : respond options line ≠ commandAnswer line := by
      intro same
      have emissions := congrArg Report.emissions same
      rw [answered, logged, commandAnswer, wordless] at emissions
      cases emissions
    exact ⟨iff_of_false apart dot, iff_of_true answered dot⟩

/-- Commands are read off lines exactly as they are spelt. A line is a command line by its first
character other than a blank, whether it is a command or not, and scanning such a line would fail at
that character before any token. So no line that gives a token, or goes through, is taken for one. -/
theorem commands_apart_from_sources :
    (∀ line command, Command.parse line = some command ↔
      ∃ word, Text.Trims line.toList ('.' :: word) ∧ command.Spelt word) ∧
    (∀ options line, ¬ Text.allBlank line = true →
      (respond options line = commandAnswer line ↔ Text.firstShown line = some '.') ∧
      (respond options line = sourceAnswer options line ↔ Text.firstShown line ≠ some '.')) ∧
    (∀ line, Text.firstShown line = some '.' →
      ∃ gap rest place, line.toList = gap ++ '.' :: rest ∧ Blank gap ∧ (scan line).tokens = [] ∧
        (scan line).failure = some ⟨place, .unexpectedCharacter '.'⟩ ∧ place.offset = gap.length) ∧
    ∀ line, ((scan line).tokens ≠ [] ∨ (scan line).failure = none) →
      Text.firstShown line ≠ some '.' ∧ Command.parse line = none := by
  refine ⟨fun line command => Command.parse_eq_some_iff, ?_, ?_, ?_⟩
  · intro options line shown
    exact respond_cases shown options
  · intro line dot
    obtain ⟨gap, rest, parts, blank⟩ := exists_gap dot
    obtain ⟨empty, failed⟩ := scan_of_dot parts blank
    exact ⟨gap, rest, _, parts, blank, empty, failed, Location.past_start_offset gap⟩
  · intro line delivers
    have plain : Text.firstShown line ≠ some '.' := by
      intro dot
      obtain ⟨gap, rest, parts, blank⟩ := exists_gap dot
      obtain ⟨empty, failed⟩ := scan_of_dot parts blank
      rcases delivers with some | none
      · exact some empty
      · rw [failed] at none
        cases none
    refine ⟨plain, ?_⟩
    exact Option.eq_none_iff_forall_ne_some.mpr fun _ parse => plain (firstShown_of_parse parse)

/-- The Kelvin sign in a command, a line with a dot that is no command, and a dot behind a word. -/
theorem commands_apart_on_lines :
    (Text.Trims "\t.\u212aEYwords\u00a0".toList ".\u212aEYwords".toList ∧
      Command.parse "\t.\u212aEYwords\u00a0" = some .keywords) ∧
    (¬ Text.allBlank " .x 1" = true ∧ Text.firstShown " .x 1" = some '.' ∧
      respond ⟨.plain, true⟩ " .x 1" = commandAnswer " .x 1" ∧
      ∃ gap rest place, " .x 1".toList = gap ++ '.' :: rest ∧ Blank gap ∧
        (scan " .x 1").tokens = [] ∧
        (scan " .x 1").failure = some ⟨place, .unexpectedCharacter '.'⟩ ∧ place.offset = gap.length) ∧
    ((scan "x .exit").tokens ≠ [] ∧ Text.firstShown "x .exit" ≠ some '.' ∧
      Command.parse "x .exit" = none) := by
  obtain ⟨parsed, answered, failed, delivered⟩ := commands_apart_from_sources
  have trims : Text.Trims "\t.\u212aEYwords\u00a0".toList ".\u212aEYwords".toList :=
    Text.trim_eq_iff.mp (by decide)
  have spelt : Command.keywords.Spelt "\u212aEYwords".toList :=
    ⟨"keywords", by decide,
      (map_lowered_eq_iff (Command.words_small .keywords _ (by decide))).mp (by decide)⟩
  have shown : ¬ Text.allBlank " .x 1" = true := by decide
  have dot : Text.firstShown " .x 1" = some '.' := by decide
  have tokens : (scan "x .exit").tokens ≠ [] := by decide +kernel
  refine ⟨⟨trims, (parsed _ _).mpr ⟨_, trims, spelt⟩⟩, ?_, tokens, delivered _ (.inl tokens)⟩
  exact ⟨shown, dot, (answered _ _ shown).1.mpr dot, failed _ dot⟩

end Session

end TokenScan
