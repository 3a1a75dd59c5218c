import TokenScan.Json

/-! What a JSON text says, by the grammar of JSON: one rule for each way in which a part of a
document can be written, with blanks wherever the grammar allows them. A text says one thing at
most, since each part shows by its first character what it is and by its own characters where it
ends; only numbers need what follows to stop them. Documents have no numbers but the natural
ones, so the grammar has no others. -/
namespace TokenScan.Json

def isSpace (c : Char) : Bool := c == ' ' || c == '\t' || c == '\n' || c == '\r'

/-- What may stand between any two parts of a document. -/
def Space (chars : List Char) : Prop := ∀ c ∈ chars, isSpace c = true

instance (chars : List Char) : Decidable (Space chars) :=
  decidable_of_iff (chars.all isSpace = true) List.all_eq_true

/-- Decimal digits, of which a leading zero is the only one. -/
structure Numeral (chars : List Char) (value : Nat) : Prop where
  filled : chars ≠ []
  digits : ∀ c ∈ chars, c.isDigit = true
  leading : chars.head? = some '0' → chars = ['0']
  counted : Nat.ofDigitChars 10 chars 0 = value

def hexValue? (c : Char) : Option Nat :=
  if c.isDigit then some (c.toNat - '0'.toNat)
  else if 'a' ≤ c ∧ c ≤ 'f' then some (c.toNat - 'a'.toNat + 10)
  else if 'A' ≤ c ∧ c ≤ 'F' then some (c.toNat - 'A'.toNat + 10)
  else none

/-- Four hexadecimal digits. -/
def codeUnit? : List Char → Option Nat
  | [a, b, c, d] => do
    return 0x1000 * (← hexValue? a) + 0x100 * (← hexValue? b) + 0x10 * (← hexValue? c) +
      (← hexValue? d)
  | _ => none

/-- The letters that stand for a character of their own behind a backslash. -/
def shortEscapes : List (Char × Char) :=
  [('"', '"'), ('\\', '\\'), ('/', '/'), ('b', '\x08'), ('f', '\x0c'), ('n', '\n'), ('r', '\r'),
    ('t', '\t')]

/-- What stands behind a backslash: a letter, the code of the character, or the two codes that
stand for a character beyond U+FFFF. -/
inductive Escape : List Char → Char → Prop where
  | short {letter c : Char} : (letter, c) ∈ shortEscapes → Escape [letter] c
  | unit {digits : List Char} {c : Char} : codeUnit? digits = some c.toNat → Escape ('u' :: digits) c
  | pair {first second : List Char} {high low : Nat} {c : Char} : high < 0x400 → low < 0x400 →
      codeUnit? first = some (0xd800 + high) → codeUnit? second = some (0xdc00 + low) →
      c.toNat = 0x10000 + 0x400 * high + low → Escape ('u' :: (first ++ '\\' :: 'u' :: second)) c

/-- One character inside quotes. -/
inductive Coded : List Char → Char → Prop where
  | plain {c : Char} : 0x20 ≤ c.toNat → c ≠ '"' → c ≠ '\\' → Coded [c] c
  | escape {code : List Char} {c : Char} : Escape code c → Coded ('\\' :: code) c

inductive Spelled : List Char → List Char → Prop where
  | nil : Spelled [] []
  | cons {code chars text : List Char} {c : Char} : Coded code c → Spelled chars text →
      Spelled (code ++ chars) (c :: text)

inductive Quoted : List Char → String → Prop where
  | mk {chars : List Char} {text : String} : Spelled chars text.toList →
      Quoted ('"' :: (chars ++ ['"'])) text

/-- Any number of parts with a comma between any two. -/
inductive Listed {α : Type} (part : List Char → α → Prop) : List Char → List α → Prop where
  | empty {space : List Char} : Space space → Listed part space []
  | last {before chars after : List Char} {item : α} : Space before → part chars item →
      Space after → Listed part (before ++ (chars ++ after)) [item]
  | more {before chars after rest : List Char} {item next : α} {items : List α} : Space before →
      part chars item → Space after → Listed part rest (next :: items) →
      Listed part (before ++ (chars ++ (after ++ ',' :: rest))) (item :: next :: items)

/-- A field of an object, given how its value is written. -/
inductive Field (part : List Char → Json → Prop) : List Char → String × Json → Prop where
  | mk {key before after chars : List Char} {name : String} {value : Json} : Quoted key name →
      Space before → Space after → part chars value →
      Field part (key ++ (before ++ ':' :: (after ++ chars))) (name, value)

/-- The text says this document, with no blanks around it. -/
inductive Denotes : List Char → Json → Prop where
  | number {chars : List Char} {value : Nat} : Numeral chars value → Denotes chars (.number value)
  | text {chars : List Char} {value : String} : Quoted chars value → Denotes chars (.text value)
  | array {chars : List Char} {items : List Json} : Listed Denotes chars items →
      Denotes ('[' :: (chars ++ [']'])) (.array items)
  | object {chars : List Char} {fields : List (String × Json)} : Listed (Field Denotes) chars fields →
      Denotes ('\x7b' :: (chars ++ ['\x7d'])) (.object fields)

/-- The text is this document. -/
def Says (text : String) (document : Json) : Prop := ∃ before chars after,
  text.toList = before ++ (chars ++ after) ∧ Space before ∧ Denotes chars document ∧ Space after

theorem codeUnit?_length {digits : List Char} {value : Nat} (unit : codeUnit? digits = some value) :
    digits.length = 4 := by
  unfold codeUnit? at unit
  split at unit
  · rfl
  · cases unit

/-- The codes that come in pairs are those of no character. -/
theorem toNat_ne_surrogate (c : Char) {half : Nat} (within : half < 0x400) :
    c.toNat ≠ 0xd800 + half := by
  have valid : c.toNat < 0xd800 ∨ 0xdfff < c.toNat ∧ c.toNat < 0x110000 := c.valid
  omega

/-- An escape of four digits is over where these are. -/
theorem codeUnit?_unique {digits other rest left : List Char} {value value' : Nat}
    (unit : codeUnit? digits = some value) (unit' : codeUnit? other = some value')
    (same : digits ++ rest = other ++ left) : value = value' ∧ rest = left := by
  have size : digits.length = other.length := by
    rw [codeUnit?_length unit, codeUnit?_length unit']
  obtain ⟨rfl, behind⟩ := List.append_inj same size
  rw [unit] at unit'
  exact ⟨Option.some.inj unit', behind⟩

theorem shortEscapes_unique {letter c d : Char} (first : (letter, c) ∈ shortEscapes)
    (second : (letter, d) ∈ shortEscapes) : c = d := by
  have distinct : ∀ one ∈ shortEscapes, ∀ other ∈ shortEscapes, one.1 = other.1 → one.2 = other.2 := by
    decide
  exact distinct _ first _ second rfl

theorem not_mem_shortEscapes (c : Char) : ('u', c) ∉ shortEscapes := by
  have absent : ∀ entry ∈ shortEscapes, entry.1 ≠ 'u' := by decide
  exact fun member => absent _ member rfl

theorem Escape.unique {code other rest left : List Char} {c d : Char} (first : Escape code c)
    (second : Escape other d) (same : code ++ rest = other ++ left) : c = d ∧ rest = left := by
  obtain ⟨letter, behind⟩ : (code ++ rest).head? = (other ++ left).head? ∧
      (code ++ rest).tail = (other ++ left).tail := by
    rw [same]
    exact ⟨rfl, rfl⟩
  cases first with
  | short named =>
    cases second with
    | short named' =>
      obtain rfl := Option.some.inj letter
      exact ⟨shortEscapes_unique named named', behind⟩
    | unit | pair =>
      obtain rfl := Option.some.inj letter
      exact absurd named (not_mem_shortEscapes c)
  | unit digits =>
    cases second with
    | short named =>
      obtain rfl := Option.some.inj letter
      exact absurd named (not_mem_shortEscapes d)
    | unit digits' =>
      obtain ⟨value, ends⟩ := codeUnit?_unique digits digits' behind
      exact ⟨Char.toNat_inj.mp value, ends⟩
    | pair within _ front =>
      simp only [List.cons_append, List.append_assoc, List.tail_cons] at behind
      exact absurd (codeUnit?_unique digits front behind).1 (toNat_ne_surrogate c within)
  | pair within _ front back value =>
    cases second with
    | short named =>
      obtain rfl := Option.some.inj letter
      exact absurd named (not_mem_shortEscapes d)
    | unit digits =>
      simp only [List.cons_append, List.append_assoc, List.tail_cons] at behind
      exact absurd (codeUnit?_unique front digits behind).1.symm (toNat_ne_surrogate d within)
    | pair _ _ front' back' value' =>
      simp only [List.cons_append, List.append_assoc, List.tail_cons] at behind
      obtain ⟨high, others⟩ := codeUnit?_unique front front' behind
      simp only [List.cons.injEq, true_and] at others
      obtain ⟨low, ends⟩ := codeUnit?_unique back back' others
      refine ⟨Char.toNat_inj.mp ?_, ends⟩
      omega

theorem Coded.unique {code other rest left : List Char} {c d : Char} (first : Coded code c)
    (second : Coded other d) (same : code ++ rest = other ++ left) : c = d ∧ rest = left := by
  cases first with
  | plain _ _ unescaped =>
    cases second with
    | plain => simpa using same
    | escape => exact absurd (List.cons.inj same).1 unescaped
  | escape escape =>
    cases second with
    | plain _ _ unescaped => exact absurd (List.cons.inj same).1.symm unescaped
    | escape escape' => exact escape.unique escape' (List.cons.inj same).2

/-- No character inside quotes is written with a quote in front. -/
theorem Coded.head {code : List Char} {c : Char} (coded : Coded code c) :
    ∃ first rest, code = first :: rest ∧ first ≠ '"' := by
  cases coded with
  | plain _ unquoted => exact ⟨_, _, rfl, unquoted⟩
  | escape => exact ⟨_, _, rfl, by decide⟩

theorem Spelled.unique {chars other rest left text text' : List Char} (first : Spelled chars text)
    (second : Spelled other text') (same : chars ++ '"' :: rest = other ++ '"' :: left) :
    text = text' ∧ rest = left := by
  induction first generalizing other text' with
  | nil =>
    cases second with
    | nil => simpa using same
    | cons coded =>
      obtain ⟨_, _, rfl, unquoted⟩ := coded.head
      simp only [List.nil_append, List.cons_append, List.cons.injEq] at same
      exact absurd same.1.symm unquoted
  | cons coded _ ih =>
    cases second with
    | nil =>
      obtain ⟨_, _, rfl, unquoted⟩ := coded.head
      simp only [List.nil_append, List.cons_append, List.cons.injEq] at same
      exact absurd same.1 unquoted
    | cons coded' others =>
      rw [List.append_assoc, List.append_assoc] at same
      obtain ⟨rfl, behind⟩ := coded.unique coded' same
      obtain ⟨rfl, ends⟩ := ih others behind
      exact ⟨rfl, ends⟩

theorem Quoted.unique {chars other rest left : List Char} {text text' : String}
    (first : Quoted chars text) (second : Quoted other text') (same : chars ++ rest = other ++ left) :
    text = text' ∧ rest = left := by
  obtain ⟨first⟩ := first
  obtain ⟨second⟩ := second
  simp only [List.cons_append, List.append_assoc, List.cons.injEq, true_and, List.nil_append] at same
  obtain ⟨text, behind⟩ := first.unique second same
  exact ⟨String.toList_inj.mp text, behind⟩

/-- What follows begins with no character of the class. -/
def Stops (inside : Char → Bool) (rest : List Char) : Prop :=
  ∀ c, rest.head? = some c → inside c = false

theorem stops_cons {inside : Char → Bool} {c : Char} {rest : List Char} :
    Stops inside (c :: rest) ↔ inside c = false := by
  simp [Stops]

/-- A run of characters of a class, with what stops it, splits in one way only. -/
theorem front_unique {inside : Char → Bool} {chars other rest left : List Char}
    (first : ∀ c ∈ chars, inside c = true) (second : ∀ c ∈ other, inside c = true)
    (stop : Stops inside rest) (stop' : Stops inside left) (same : chars ++ rest = other ++ left) :
    chars = other ∧ rest = left := by
  have front {run tail : List Char} (within : ∀ c ∈ run, inside c = true) (stop : Stops inside tail) :
      (run ++ tail).takeWhile inside = run := by
    rw [List.takeWhile_append_of_pos within]
    cases tail with
    | nil => simp
    | cons c tail => simp [stops_cons.mp stop]
  obtain rfl : chars = other := by
    rw [← front first stop, same, front second stop']
  exact ⟨rfl, List.append_cancel_left same⟩

theorem Numeral.unique {chars other rest left : List Char} {value value' : Nat}
    (first : Numeral chars value) (second : Numeral other value') (stop : Stops Char.isDigit rest)
    (stop' : Stops Char.isDigit left) (same : chars ++ rest = other ++ left) :
    value = value' ∧ rest = left := by
  obtain ⟨rfl, behind⟩ := front_unique first.digits second.digits stop stop' same
  exact ⟨first.counted.symm.trans second.counted, behind⟩

theorem isDigit_of_isSpace {c : Char} (space : isSpace c = true) : c.isDigit = false := by
  simp only [isSpace, Bool.or_eq_true, beq_iff_eq] at space
  rcases space with ((rfl | rfl) | rfl) | rfl <;> decide

/-- The characters that come behind a part: a comma, or the end of a list. -/
def isMark (c : Char) : Bool := c == ',' || c == ']' || c == '\x7d'

theorem not_of_isMark {c : Char} (mark : isMark c = true) :
    isSpace c = false ∧ c.isDigit = false := by
  simp only [isMark, Bool.or_eq_true, beq_iff_eq] at mark
  rcases mark with (rfl | rfl) | rfl <;> decide

theorem solid_of_isDigit {c : Char} (digit : c.isDigit = true) :
    isSpace c = false ∧ isMark c = false := by
  constructor
  · cases space : isSpace c with
    | false => rfl
    | true =>
      rw [isDigit_of_isSpace space] at digit
      cases digit
  · cases mark : isMark c with
    | false => rfl
    | true =>
      rw [(not_of_isMark mark).2] at digit
      cases digit

/-- Parts begin with what is neither a blank nor a mark. -/
def Starts {α : Type} (part : List Char → α → Prop) : Prop := ∀ chars item, part chars item →
  ∃ c rest, chars = c :: rest ∧ isSpace c = false ∧ isMark c = false

/-- A text for the item says nothing else and ends in one place, whatever follows but a digit. -/
def Decided {α : Type} (part : List Char → α → Prop) (item : α) : Prop :=
  ∀ (chars other rest left : List Char) (item' : α), part chars item → part other item' →
    Stops Char.isDigit rest → Stops Char.isDigit left → chars ++ rest = other ++ left →
    item = item' ∧ rest = left

variable {α : Type} {part : List Char → α → Prop}

theorem stops_behind {after rest : List Char} {mark : Char} (space : Space after)
    (marked : isMark mark = true) : Stops Char.isDigit (after ++ mark :: rest) := by
  cases after with
  | nil => exact stops_cons.mpr (not_of_isMark marked).2
  | cons c after => exact stops_cons.mpr (isDigit_of_isSpace (space c List.mem_cons_self))

theorem Starts.stops (starts : Starts part) {chars rest : List Char} {item : α}
    (reads : part chars item) : Stops isSpace (chars ++ rest) := by
  obtain ⟨c, others, rfl, plain, _⟩ := starts _ _ reads
  exact stops_cons.mpr plain

/-- A part with its blanks, up to the mark behind it. -/
theorem part_unique {item item' : α} (starts : Starts part) (decided : Decided part item)
    {before before' chars chars' after after' rest left : List Char} {mark mark' : Char}
    (space : Space before) (space' : Space before') (reads : part chars item)
    (reads' : part chars' item') (behind : Space after) (behind' : Space after')
    (marked : isMark mark = true) (marked' : isMark mark' = true)
    (same : before ++ (chars ++ (after ++ mark :: rest)) =
      before' ++ (chars' ++ (after' ++ mark' :: left))) :
    item = item' ∧ mark = mark' ∧ rest = left := by
  obtain ⟨_, inner⟩ := front_unique space space' (starts.stops reads) (starts.stops reads') same
  obtain ⟨rfl, tail⟩ := decided _ _ _ _ _ reads reads' (stops_behind behind marked)
    (stops_behind behind' marked') inner
  obtain ⟨_, ends⟩ := front_unique behind behind' (stops_cons.mpr (not_of_isMark marked).1)
    (stops_cons.mpr (not_of_isMark marked').1) tail
  simpa using ends

/-- Nothing but blanks is not a part. -/
theorem not_part_of_space {item : α} (starts : Starts part) {space before chars tail rest : List Char}
    {mark : Char} (blank : Space space) (blank' : Space before) (reads : part chars item)
    (marked : isMark mark = true) : space ++ mark :: rest ≠ before ++ (chars ++ tail) := by
  obtain ⟨c, others, rfl, plain, unmarked⟩ := starts _ _ reads
  intro same
  obtain ⟨_, ends⟩ := front_unique blank blank' (stops_cons.mpr (not_of_isMark marked).1)
    (stops_cons.mpr plain) same
  simp only [List.cons.injEq] at ends
  rw [ends.1, unmarked] at marked
  cases marked

/-- The induction is on the first reading; each part settles where the next one begins. -/
theorem Listed.unique {items items' : List α} {chars other rest left : List Char} {closing : Char}
    (starts : Starts part) (decided : ∀ item ∈ items, Decided part item)
    (marked : isMark closing = true) (ends : closing ≠ ',') (first : Listed part chars items)
    (second : Listed part other items')
    (same : chars ++ closing :: rest = other ++ closing :: left) : items = items' ∧ rest = left := by
  induction first generalizing other items' with
  | empty space =>
    cases second with
    | empty space' =>
      have stop := (not_of_isMark marked).1
      obtain ⟨_, behind⟩ := front_unique space space' (stops_cons.mpr stop) (stops_cons.mpr stop) same
      simpa using behind
    | last before reads | more before reads =>
      simp only [List.append_assoc] at same
      exact absurd same (not_part_of_space starts space before reads marked)
  | last before reads after =>
    cases second with
    | empty space =>
      simp only [List.append_assoc] at same
      exact absurd same.symm (not_part_of_space starts space before reads marked)
    | last before' reads' after' =>
      simp only [List.append_assoc] at same
      obtain ⟨rfl, _, behind⟩ := part_unique starts (decided _ List.mem_cons_self) before before' reads
        reads' after after' marked marked same
      exact ⟨rfl, behind⟩
    -- Where one list ends and the other goes on, the marks behind the part differ.
    | more before' reads' after' =>
      simp only [List.append_assoc, List.cons_append] at same
      obtain ⟨_, mark, _⟩ := part_unique starts (decided _ List.mem_cons_self) before before' reads
        reads' after after' marked rfl same
      exact absurd mark ends
  | more before reads after _ ih =>
    cases second with
    | empty space =>
      simp only [List.append_assoc] at same
      exact absurd same.symm (not_part_of_space starts space before reads marked)
    | last before' reads' after' =>
      simp only [List.append_assoc, List.cons_append] at same
      obtain ⟨_, mark, _⟩ := part_unique starts (decided _ List.mem_cons_self) before before' reads
        reads' after after' rfl marked same
      exact absurd mark.symm ends
    | more before' reads' after' others =>
      simp only [List.append_assoc, List.cons_append] at same
      obtain ⟨rfl, _, behind⟩ := part_unique starts (decided _ List.mem_cons_self) before before' reads
        reads' after after' rfl rfl same
      obtain ⟨more, tail⟩ := ih (fun item member => decided item (List.mem_cons_of_mem _ member))
        others behind
      exact ⟨congrArg _ more, tail⟩

theorem Field.starts {value : List Char → Json → Prop} : Starts (Field value) := by
  rintro _ _ ⟨⟨_⟩, _, _, _⟩
  exact ⟨'"', _, rfl, rfl, rfl⟩

theorem Field.decided {part : List Char → Json → Prop} {name : String} {value : Json}
    (starts : Starts part) (decided : Decided part value) : Decided (Field part) (name, value) := by
  rintro _ _ rest left _ ⟨quoted, before, after, reads⟩ ⟨quoted', before', after', reads'⟩ stop
    stop' same
  simp only [List.append_assoc, List.cons_append] at same
  obtain ⟨rfl, colon⟩ := quoted.unique quoted' same
  obtain ⟨_, behind⟩ := front_unique before before' (stops_cons.mpr rfl) (stops_cons.mpr rfl) colon
  obtain ⟨_, inner⟩ := front_unique after after' (starts.stops reads) (starts.stops reads')
    (List.cons.inj behind).2
  obtain ⟨rfl, ends⟩ := decided _ _ _ _ _ reads reads' stop stop' inner
  exact ⟨rfl, ends⟩

/-- The character that a document begins with, except for numbers. -/
def opening : Json → Option Char
  | .number _ => none
  | .text _ => some '"'
  | .array _ => some '['
  | .object _ => some '\x7b'

theorem Denotes.opens {chars : List Char} {document : Json} (denotes : Denotes chars document) :
    ∃ c rest, chars = c :: rest ∧ opening document = if c.isDigit then none else some c := by
  cases denotes with
  | number numeral =>
    obtain ⟨c, rest, rfl⟩ := List.exists_cons_of_ne_nil numeral.filled
    refine ⟨c, rest, rfl, ?_⟩
    rw [if_pos (numeral.digits c List.mem_cons_self)]
    rfl
  | text quoted =>
    obtain ⟨_⟩ := quoted
    exact ⟨_, _, rfl, rfl⟩
  | array | object => exact ⟨_, _, rfl, rfl⟩

theorem Denotes.starts : Starts Denotes := by
  intro chars document denotes
  obtain ⟨c, rest, rfl, opens⟩ := denotes.opens
  refine ⟨c, rest, rfl, ?_⟩
  by_cases digit : c.isDigit = true
  · exact solid_of_isDigit digit
  · rw [if_neg digit] at opens
    cases document with
    | number => cases opens
    | text | array | object =>
      obtain rfl := Option.some.inj opens
      exact ⟨rfl, rfl⟩

theorem Denotes.opening_eq {chars other rest left : List Char} {document document' : Json}
    (first : Denotes chars document) (second : Denotes other document')
    (same : chars ++ rest = other ++ left) : opening document = opening document' := by
  obtain ⟨c, _, rfl, opens⟩ := first.opens
  obtain ⟨d, _, rfl, opens'⟩ := second.opens
  rw [opens, opens', (List.cons.inj same).1]

/-- Induction through the items of arrays and the values of fields. -/
theorem induction {motive : Json → Prop} (number : ∀ value, motive (.number value))
    (text : ∀ value, motive (.text value))
    (array : ∀ items, (∀ item ∈ items, motive item) → motive (.array items))
    (object : ∀ fields, (∀ field ∈ fields, motive field.2) → motive (.object fields)) :
    (document : Json) → motive document
  | .number value => number value
  | .text value => text value
  | .array items => array items fun item _ => induction number text array object item
  | .object fields => object fields fun field _ => induction number text array object field.2
termination_by document => document
decreasing_by
  · have smaller := List.sizeOf_lt_of_mem ‹item ∈ items›
    rw [Json.array.sizeOf_spec]
    omega
  · have smaller := List.sizeOf_lt_of_mem ‹field ∈ fields›
    have value : sizeOf field.2 < sizeOf field := by
      rw [Prod.mk.sizeOf_spec]
      omega
    rw [Json.object.sizeOf_spec]
    omega

/-- What follows a document does not matter, as long as it does not go on with digits. -/
theorem denotes_decided (document : Json) : Decided Denotes document := by
  induction document using Json.induction with
  | number value =>
    intro chars other rest left document' first second stop stop' same
    have opens := first.opening_eq second same
    cases first with | number numeral =>
    cases second with
    | number numeral' =>
      obtain ⟨rfl, ends⟩ := numeral.unique numeral' stop stop' same
      exact ⟨rfl, ends⟩
    | text | array | object => cases opens
  | text value =>
    intro chars other rest left document' first second _ _ same
    have opens := first.opening_eq second same
    cases first with | text quoted =>
    cases second with
    | text quoted' =>
      obtain ⟨rfl, ends⟩ := quoted.unique quoted' same
      exact ⟨rfl, ends⟩
    | number | array | object => simp [opening] at opens
  | array items each =>
    intro chars other rest left document' first second _ _ same
    have opens := first.opening_eq second same
    cases first with | array listed =>
    cases second with
    | array listed' =>
      simp only [List.cons_append, List.append_assoc, List.cons.injEq, true_and,
        List.nil_append] at same
      obtain ⟨rfl, ends⟩ := listed.unique Denotes.starts each rfl (by decide) listed' same
      exact ⟨rfl, ends⟩
    | number | text | object => simp [opening] at opens
  | object fields each =>
    intro chars other rest left document' first second _ _ same
    have opens := first.opening_eq second same
    cases first with | object listed =>
    cases second with
    | object listed' =>
      have fieldwise : ∀ field ∈ fields, Decided (Field Denotes) field :=
        fun field member => Field.decided Denotes.starts (each field member)
      simp only [List.cons_append, List.append_assoc, List.cons.injEq, true_and,
        List.nil_append] at same
      obtain ⟨rfl, ends⟩ := listed.unique Field.starts fieldwise rfl (by decide) listed' same
      exact ⟨rfl, ends⟩
    | number | text | array => simp [opening] at opens

theorem Says.unique {text : String} {document document' : Json} (first : Says text document)
    (second : Says text document') : document = document' := by
  obtain ⟨before, chars, after, parts, space, denotes, behind⟩ := first
  obtain ⟨before', chars', after', parts', space', denotes', behind'⟩ := second
  have stop {after : List Char} (space : Space after) : Stops Char.isDigit after :=
    fun c head => isDigit_of_isSpace (space c (List.mem_of_head? head))
  obtain ⟨_, inner⟩ := front_unique space space' (Denotes.starts.stops denotes)
    (Denotes.starts.stops denotes') (parts.symm.trans parts')
  exact (denotes_decided document _ _ _ _ _ denotes denotes' (stop behind) (stop behind') inner).1

end TokenScan.Json
