import TokenScan.Proofs.JsonText

/-! What is written for a document is a JSON text that says this document and no other, in any
layout that puts only blanks where a line may break. -/
namespace TokenScan.Json

/-- All digits but the last are those of a number that is not zero. -/
theorem head_toDigits_zero {n : Nat} (leading : (Nat.toDigits 10 n).head? = some '0') :
    Nat.toDigits 10 n = ['0'] := by
  induction n using Nat.strongRecOn with
  | _ n ih =>
    by_cases single : n < 10
    · rw [Nat.toDigits_of_lt_base single] at leading ⊢
      rw [Option.some.inj leading]
    · obtain ⟨c, digits, front⟩ := List.exists_cons_of_ne_nil (@Nat.toDigits_ne_nil (n / 10) 10)
      rw [Nat.toDigits_of_base_le (by decide) (Nat.le_of_not_lt single), front] at leading
      have zero := ih (n / 10) (by omega) (by rw [front]; exact leading)
      have counted := @Nat.ofDigitChars_ten_toDigits (n / 10)
      rw [zero] at counted
      have none : 0 = n / 10 := counted
      omega

theorem numeral_toString (value : Nat) : Numeral (toString value).toList value := by
  rw [Nat.toString_eq_repr, Nat.toList_repr]
  constructor
  · exact Nat.toDigits_ne_nil
  · exact fun c member => Nat.isDigit_of_mem_toDigits (by decide) (by decide) member
  · exact head_toDigits_zero
  · exact Nat.ofDigitChars_ten_toDigits

theorem hexValue?_digitChar {n : Nat} (within : n < 16) : hexValue? (Nat.digitChar n) = some n := by
  have each : ∀ n < 16, hexValue? (Nat.digitChar n) = some n := by decide
  exact each n within

/-- The two digits of a character below U+0020, behind two zeros. -/
theorem codeUnit?_low {n : Nat} (low : n < 0x20) :
    codeUnit? ['0', '0', Nat.digitChar (n / 16), Nat.digitChar (n % 16)] = some n := by
  have zero : hexValue? '0' = some 0 := rfl
  have high : hexValue? (Nat.digitChar (n / 16)) = some (n / 16) := hexValue?_digitChar (by omega)
  have last : hexValue? (Nat.digitChar (n % 16)) = some (n % 16) := hexValue?_digitChar (by omega)
  simp only [codeUnit?, zero, high, last, Option.bind_eq_bind, Option.bind_some, Option.pure_def,
    Option.some.injEq]
  omega

theorem coded_escaped (c : Char) : Coded (escaped c) c := by
  unfold escaped
  by_cases quote : c = '"'
  · rw [if_pos quote, quote]
    exact .escape (.short (by decide))
  by_cases backslash : c = '\\'
  · rw [if_neg quote, if_pos backslash, backslash]
    exact .escape (.short (by decide))
  rw [if_neg quote, if_neg backslash]
  -- Five characters have a letter of their own, though they are below U+0020 too.
  iterate 5
    split
    · rename_i named
      rw [named]
      exact .escape (.short (by decide))
  split
  · rename_i low
    exact .escape (.unit (codeUnit?_low low))
  · rename_i shown
    exact .plain (Nat.le_of_not_lt shown) quote backslash

theorem spelled_escaped (text : List Char) : Spelled (text.flatMap escaped) text := by
  induction text with
  | nil => exact .nil
  | cons c text ih => exact .cons (coded_escaped c) ih

theorem quoted_quoted (text : String) : Quoted (quoted text).toList text := by
  rw [quoted, String.toList_ofList]
  exact ⟨spelled_escaped text.toList⟩

example : quoted "\"\\\n\x01é" = "\"\\\"\\\\\\n\\u0001é\"" := by decide

/-- What stands between the parts of a document stands where blanks may. -/
structure Layout.Lawful (layout : Layout) : Prop where
  newline : ∀ depth, Space (layout.newline depth).toList
  colon : ∃ space, layout.colon.toList = ':' :: space ∧ Space space

theorem Layout.compact_lawful : Layout.compact.Lawful := by
  refine ⟨fun depth => ?_, [], rfl, ?_⟩
  · exact List.forall_mem_nil _
  · exact List.forall_mem_nil _

theorem Layout.pretty_lawful : Layout.pretty.Lawful := by
  refine ⟨fun depth c member => ?_, [' '], rfl, ?_⟩
  · rw [pretty, String.toList_ofList] at member
    rcases List.mem_cons.mp member with rfl | blank
    · rfl
    · obtain rfl := List.eq_of_mem_replicate blank
      rfl
  · simp [Space, isSpace]

variable {α : Type} {part : List Char → α → Prop} {layout : Layout}

def body (layout : Layout) (depth : Nat) (document : Json) : List Char :=
  (String.join (document.pieces layout depth)).toList

def fieldBody (layout : Layout) (depth : Nat) (field : String × Json) : List Char :=
  (quoted field.1).toList ++ (layout.colon.toList ++ body layout depth field.2)

/-- Each further part behind a comma. -/
def further (newline : List Char) (part : α → List Char) (items : List α) : List Char :=
  items.flatMap fun item => ',' :: (newline ++ part item)

theorem itemPieces_eq (layout : Layout) (depth : Nat) (items : List Json) :
    (String.join (itemPieces layout depth items)).toList =
      further (layout.newline depth).toList (body layout depth) items := by
  induction items with
  | nil => rfl
  | cons item items ih => simp [itemPieces, further, body, ih]

theorem fieldPieces_eq (layout : Layout) (depth : Nat) (fields : List (String × Json)) :
    (String.join (fieldPieces layout depth fields)).toList =
      further (layout.newline depth).toList (fieldBody layout depth) fields := by
  induction fields with
  | nil => rfl
  | cons field fields ih => simp [fieldPieces, further, fieldBody, body, ih]

/-- What closes the list stands behind the last part, so the induction moves the first one on. -/
theorem listed_further {newline closing : List Char} (breaks : Space newline) (ends : Space closing)
    {write : α → List Char} {item : α} {items : List α} (reads : part (write item) item)
    (others : ∀ item ∈ items, part (write item) item) :
    Listed part (newline ++ (write item ++ (further newline write items ++ closing)))
      (item :: items) := by
  induction items generalizing item with
  | nil => exact .last breaks reads ends
  | cons next items ih =>
    have behind := ih (others next List.mem_cons_self) fun other member =>
      others other (List.mem_cons_of_mem _ member)
    have parts := Listed.more breaks reads (List.forall_mem_nil _) behind
    simpa [further] using parts

/-- An array or an object is its parts, from the first to the last, between its brackets. -/
theorem body_array (item : Json) (items : List Json) (depth : Nat) :
    body layout depth (.array (item :: items)) = '[' :: ((layout.newline (depth + 1)).toList ++
      (body layout (depth + 1) item ++ (further (layout.newline (depth + 1)).toList
        (body layout (depth + 1)) items ++ (layout.newline depth).toList)) ++ [']']) := by
  simp [body, pieces, ← itemPieces_eq]

theorem body_object (field : String × Json) (fields : List (String × Json)) (depth : Nat) :
    body layout depth (.object (field :: fields)) = '\x7b' :: ((layout.newline (depth + 1)).toList ++
      (fieldBody layout (depth + 1) field ++ (further (layout.newline (depth + 1)).toList
        (fieldBody layout (depth + 1)) fields ++ (layout.newline depth).toList)) ++ ['\x7d']) := by
  simp [body, fieldBody, pieces, ← fieldPieces_eq]

theorem Layout.Lawful.field (lawful : layout.Lawful) {depth : Nat} {field : String × Json}
    (denotes : Denotes (body layout depth field.2) field.2) :
    Field Denotes (fieldBody layout depth field) field := by
  obtain ⟨space, colon, blank⟩ := lawful.colon
  rw [fieldBody, colon]
  exact .mk (quoted_quoted field.1) (List.forall_mem_nil _) blank denotes

/-- The induction is on the document; its parts stand one level deeper than it does. -/
theorem Layout.Lawful.denotes (lawful : layout.Lawful) (document : Json) (depth : Nat) :
    Denotes (body layout depth document) document := by
  induction document using Json.induction generalizing depth with
  | number value =>
    have parts : body layout depth (.number value) = (toString value).toList := by simp [body, pieces]
    rw [parts]
    exact .number (numeral_toString value)
  | text value =>
    have parts : body layout depth (.text value) = (quoted value).toList := by simp [body, pieces]
    rw [parts]
    exact .text (quoted_quoted value)
  | array items each =>
    cases items with
    | nil =>
      have parts : body layout depth (.array []) = '[' :: ([] ++ [']']) := by simp [body, pieces]
      rw [parts]
      exact .array (.empty (List.forall_mem_nil _))
    | cons item items =>
      rw [body_array]
      apply Denotes.array
      apply listed_further (lawful.newline (depth + 1)) (lawful.newline depth)
      · exact each item List.mem_cons_self (depth + 1)
      · exact fun other member => each other (List.mem_cons_of_mem _ member) (depth + 1)
  | object fields each =>
    cases fields with
    | nil =>
      have parts : body layout depth (.object []) = '\x7b' :: ([] ++ ['\x7d']) := by
        simp [body, pieces]
      rw [parts]
      exact .object (.empty (List.forall_mem_nil _))
    | cons field fields =>
      rw [body_object]
      apply Denotes.object
      apply listed_further (lawful.newline (depth + 1)) (lawful.newline depth)
      · exact lawful.field (each field List.mem_cons_self (depth + 1))
      · exact fun other member => lawful.field (each other (List.mem_cons_of_mem _ member) (depth + 1))

/-- A written document says itself and nothing else, also with blanks behind it. -/
theorem Layout.Lawful.says_iff (lawful : layout.Lawful) (document : Json) (after : String)
    (blank : Space after.toList) (other : Json) :
    Says (document.write layout ++ after) other ↔ other = document := by
  have written : Says (document.write layout ++ after) document := by
    refine ⟨[], _, _, ?_, List.forall_mem_nil _, lawful.denotes document 0, blank⟩
    rw [String.toList_append, List.nil_append, write, body]
  constructor
  · exact fun said => said.unique written
  · rintro rfl
    exact written

end TokenScan.Json
