import Mathlib.Data.List.DropRight
import Mathlib.Data.List.Forall2
import TokenScan.Proofs.PlainListing
import TokenScan.Proofs.Widths

/-! The table is one: under a heading and a rule it has a row for each token, and in all of them the
cells of a column begin at the same character. So the cells can be read back, though values hold
blanks and hyphens of their own; only where a value is filled up to its column does it become
unknown how many blanks it ended with. -/
namespace TokenScan.Listing

/-- The width of the widest of some texts. -/
structure Widest (texts : List String) (width : Nat) : Prop where
  attained : ∃ text ∈ texts, text.length = width
  bound : ∀ text ∈ texts, text.length ≤ width

theorem widest_cons (first : String) (others : List String) :
    Widest (first :: others) (Text.widest (first :: others)) := by
  refine ⟨?_, fun text member => Text.length_le_widest member⟩
  induction others generalizing first with
  | nil => exact ⟨first, List.mem_cons_self, (Nat.max_eq_left (Nat.zero_le _)).symm⟩
  | cons second others ih =>
    obtain ⟨text, member, attained⟩ := ih second
    change ∃ text ∈ first :: second :: others, text.length = max first.length (Text.widest (second :: others))
    by_cases wider : Text.widest (second :: others) ≤ first.length
    · exact ⟨first, List.mem_cons_self, (Nat.max_eq_left wider).symm⟩
    · refine ⟨text, List.mem_cons_of_mem _ member, ?_⟩
      rw [Nat.max_eq_right (by omega), attained]

/-- Where the cells of a row stand, counted in characters. -/
structure Cells (locations : Bool) (kindWidth valueWidth : Nat) (kind value location row : String) :
    Prop where
  kindCell : row.toList.take kindWidth = kind.toList ++ List.replicate (kindWidth - kind.length) ' '
  gutter : (row.toList.drop kindWidth).take 2 = [' ', ' ']
  /-- The value ends the row unless there is a location. -/
  lastCell : locations = false → row.toList.drop (kindWidth + 2) = value.toList
  valueCell : locations = true → (row.toList.drop (kindWidth + 2)).take valueWidth =
    value.toList ++ List.replicate (valueWidth - value.length) ' '
  secondGutter : locations = true →
    (row.toList.drop (kindWidth + valueWidth + 2)).take 2 = [' ', ' ']
  locationCell : locations = true → row.toList.drop (kindWidth + valueWidth + 4) = location.toList

theorem padded_toList (width : Nat) (text : String) :
    (Text.padded width text).toList = text.toList ++ List.replicate (width - text.length) ' ' := by
  simp [Text.padded, Text.spaces, Text.repeated]

theorem tableRow_toList (locations : Bool) (kindWidth valueWidth : Nat)
    (kind value location : String) :
    (tableRow locations kindWidth valueWidth kind value location).toList =
      (Text.padded kindWidth kind).toList ++ ' ' :: ' ' ::
        if locations then (Text.padded valueWidth value).toList ++ ' ' :: ' ' :: location.toList
        else value.toList := by
  cases locations <;> simp [tableRow]

section

variable {locations : Bool} {kindWidth valueWidth : Nat} {kind value location : String}

theorem cells_tableRow (named : kind.length ≤ kindWidth) (said : value.length ≤ valueWidth) :
    Cells locations kindWidth valueWidth kind value location
      (tableRow locations kindWidth valueWidth kind value location) := by
  have filled {width : Nat} {text : String} (fits : text.length ≤ width) :
      (Text.padded width text).toList.length = width := by
    rw [String.length_toList, Text.length_padded, Nat.max_eq_right fits]
  have parts := tableRow_toList locations kindWidth valueWidth kind value location
  generalize tableRow locations kindWidth valueWidth kind value location = row at parts
  have behind := congrArg (List.drop kindWidth) parts
  rw [List.drop_left' (filled named)] at behind
  have ahead := congrArg (List.drop 2) behind
  rw [List.drop_drop] at ahead
  refine ⟨?_, ?_, ?_, ?_, ?_, ?_⟩
  · rw [parts, List.take_left' (filled named), padded_toList]
  · rw [behind]
    rfl
  · rintro rfl
    exact ahead
  all_goals
    rintro rfl
    rw [if_pos rfl, List.drop_succ_cons, List.drop_succ_cons, List.drop_zero] at ahead
  · rw [ahead, List.take_left' (filled said), padded_toList]
  · rw [Nat.add_right_comm, ← List.drop_drop, ahead, List.drop_left' (filled said)]
    rfl
  · have place : kindWidth + valueWidth + 4 = kindWidth + 2 + valueWidth + 2 := by omega
    rw [place, ← List.drop_drop, ← List.drop_drop, ahead, List.drop_left' (filled said)]
    rfl

theorem inline_tableRow (named : Text.Inline kind) (said : Text.Inline value)
    (placed : Text.Inline location) :
    Text.Inline (tableRow locations kindWidth valueWidth kind value location) := by
  have blanks (count : Nat) : Text.Inline (Text.spaces count) :=
    Text.inline_repeated (by decide) count
  cases locations <;> simp +decide [tableRow, Text.padded, named, said, placed, blanks]

end

section

variable (locations : Bool) (tokens : List Token)

def tableHeading : String :=
  tableRow locations (kindWidth tokens) (valueWidth tokens) kindHeading valueHeading locationHeading

/-- The line under the headings. -/
def tableRule : String :=
  tableRow locations (kindWidth tokens) (valueWidth tokens) (Text.repeated '-' (kindWidth tokens))
    (Text.repeated '-' (valueWidth tokens)) (Text.repeated '-' locationHeading.length)

def tokenRow (token : Token) : String :=
  tableRow locations (kindWidth tokens) (valueWidth tokens) token.kind.name (Text.flat token.text)
    token.start.label

theorem table_rows : Text.Rows
    (String.join ((tableRows locations (kindWidth tokens) (valueWidth tokens) tokens).map (· ++ "\n")))
    (tableHeading locations tokens :: tableRule locations tokens ::
      tokens.map (tokenRow locations tokens)) := by
  have dashes (count : Nat) : Text.Inline (Text.repeated '-' count) := Text.inline_repeated (by decide) count
  apply Text.rows_of_inline
  refine List.forall_mem_cons.mpr ⟨?_, List.forall_mem_cons.mpr ⟨?_, ?_⟩⟩
  · exact inline_tableRow (by decide) (by decide) (by decide)
  · exact inline_tableRow (dashes _) (dashes _) (dashes _)
  · rintro _ member
    obtain ⟨token, _, rfl⟩ := List.mem_map.mp member
    exact inline_tableRow token.kind.inline_name (Text.inline_flat _) token.start.inline_label

theorem tableRule_toList : (tableRule locations tokens).toList =
    List.replicate (kindWidth tokens) '-' ++ ' ' :: ' ' ::
      (List.replicate (valueWidth tokens) '-' ++ if locations then "  --------".toList else []) := by
  have full (count : Nat) :
      (Text.padded count (Text.repeated '-' count)).toList = List.replicate count '-' := by
    simp [Text.padded, Text.spaces, Text.repeated]
  have last : (Text.repeated '-' locationHeading.length).toList = "--------".toList := by decide
  rw [tableRule, tableRow_toList, full, full, last]
  cases locations with
  | false => simp [Text.repeated]
  | true => rfl

variable {locations} {tokens}

theorem cells_heading : Cells locations (kindWidth tokens) (valueWidth tokens) kindHeading
    valueHeading locationHeading (tableHeading locations tokens) :=
  cells_tableRow (Text.length_le_widest List.mem_cons_self) (Text.length_le_widest List.mem_cons_self)

theorem cells_tokenRow {token : Token} (among : token ∈ tokens) :
    Cells locations (kindWidth tokens) (valueWidth tokens) token.kind.name (Text.flat token.text)
      token.start.label (tokenRow locations tokens token) := by
  apply cells_tableRow
  · exact Text.length_le_widest (List.mem_cons_of_mem _ (List.mem_map_of_mem among))
  · exact Text.length_le_widest (List.mem_cons_of_mem _ (List.mem_map_of_mem among))

end

/-- A text without the blanks at its end. -/
def unfilled (text : String) : List Char := text.toList.rdropWhile (· == ' ')

theorem unfilled_padded (width : Nat) (text : String) :
    unfilled (Text.padded width text) = unfilled text := by
  have blank : ∀ c ∈ List.replicate (width - text.length) ' ', (c == ' ') = true := by
    intro c member
    rw [List.eq_of_mem_replicate member]
    rfl
  rw [unfilled, padded_toList, List.rdropWhile, List.reverse_append, List.reverse_replicate,
    List.dropWhile_append_of_pos blank]
  rfl

theorem replicate_append_blank (count : Nat) (rest : List Char) :
    List.replicate count ' ' ++ ' ' :: rest = ' ' :: (List.replicate count ' ' ++ rest) := by
  rw [← List.cons_append, ← List.replicate_succ, List.replicate_succ', List.append_assoc]
  rfl

theorem kindWidth_of_rule {locations : Bool} {tokens others : List Token}
    (same : tableRule locations tokens = tableRule locations others) :
    kindWidth tokens = kindWidth others := by
  have parts := congrArg String.toList same
  rw [tableRule_toList, tableRule_toList] at parts
  have dash {count : Nat} : ∀ c ∈ List.replicate count '-', (c == '-') = true := by
    intro c member
    rw [List.eq_of_mem_replicate member]
    rfl
  obtain ⟨lines, _⟩ := Json.front_unique dash dash (Json.stops_cons.mpr rfl)
    (Json.stops_cons.mpr rfl) parts
  exact List.replicate_inj.mp lines |>.1

variable {locations : Bool} {tokens others : List Token} {first second : Token}

/-- What a row tells of its token. A value that is filled up is known without its last blanks. -/
structure Agree (locations : Bool) (first second : Token) : Prop where
  kind : first.kind = second.kind
  last : locations = false → Text.flat first.text = Text.flat second.text
  value : locations = true → unfilled (Text.flat first.text) = unfilled (Text.flat second.text)
  place : locations = true →
    first.start.line = second.start.line ∧ first.start.column = second.start.column

theorem agree_of_tokenRow (widths : kindWidth tokens = kindWidth others)
    (same : tokenRow locations tokens first = tokenRow locations others second) :
    Agree locations first second := by
  have parts := congrArg String.toList same
  simp only [tokenRow, tableRow_toList, padded_toList _ (Kind.name _), List.append_assoc,
    replicate_append_blank] at parts
  obtain ⟨kinds, behind⟩ := Kind.name_at_front (by decide) (by decide) parts
  rw [kinds, widths] at behind
  have cells := List.append_cancel_left (List.cons.inj (List.cons.inj behind).2).2
  cases locations with
  | false =>
    rw [if_neg Bool.false_ne_true, if_neg Bool.false_ne_true] at cells
    exact ⟨kinds, fun _ => String.toList_inj.mp cells, nofun, nofun⟩
  | true =>
    rw [if_pos rfl, if_pos rfl, List.append_cons, List.append_cons _ ' ' (' ' :: _)] at cells
    obtain ⟨values, _, place⟩ := Location.label_at_end (by decide) (by decide) cells
    have filled := String.toList_inj.mp (List.append_cancel_right values)
    refine ⟨kinds, nofun, fun _ => ?_, fun _ => place⟩
    rw [← unfilled_padded (valueWidth tokens), filled, unfilled_padded]

/-- The induction is on the tokens of the first table; the widths are those of the whole tables. -/
theorem agree_of_rows {some more : List Token} (widths : kindWidth tokens = kindWidth others)
    (same : some.map (tokenRow locations tokens) = more.map (tokenRow locations others)) :
    List.Forall₂ (Agree locations) some more := by
  induction some generalizing more with
  | nil =>
    rw [List.map_nil, eq_comm, List.map_eq_nil_iff] at same
    rw [same]
    exact .nil
  | cons first rest ih =>
    rw [List.map_cons, eq_comm, List.map_eq_cons_iff] at same
    obtain ⟨second, left, rfl, row, behind⟩ := same
    exact .cons (agree_of_tokenRow widths row.symm) (ih behind.symm)

/-- A table is refused if it has a column to be filled up and a token too wide for that, and is written
otherwise. Then it is two rows and one for each token, each ended by its only line feed. The first
column is as wide as the widest name of a kind and the second as the widest value, their headings
counted; the second row rules them off, and in every other row the cells stand where the columns
begin. Tables that are the same have the same tokens in all that their rows tell. -/
theorem table_tells_tokens (locations : Bool) :
    (∀ tokens, Wide ⟨.table, locations⟩ tokens → table locations tokens = .error .wideColumn) ∧
    (∀ tokens, ¬ Wide ⟨.table, locations⟩ tokens → ∃ output kindWidth valueWidth heading rule rows,
      table locations tokens = .ok output ∧
      Widest (kindHeading :: tokens.map (·.kind.name)) kindWidth ∧
      Widest (valueHeading :: tokens.map fun token => Text.flat token.text) valueWidth ∧
      Text.Rows output (heading :: rule :: rows) ∧
      Cells locations kindWidth valueWidth kindHeading valueHeading locationHeading heading ∧
      rule.toList = List.replicate kindWidth '-' ++ ' ' :: ' ' ::
        (List.replicate valueWidth '-' ++ if locations then "  --------".toList else []) ∧
      List.Forall₂ (fun token row => Cells locations kindWidth valueWidth token.kind.name
        (Text.flat token.text) token.start.label row) tokens rows) ∧
    ∀ tokens others output, table locations tokens = .ok output → table locations others = .ok output →
      List.Forall₂ (Agree locations) tokens others := by
  refine ⟨fun tokens wide => render_of_wide wide, ?_, ?_⟩
  · intro tokens fits
    refine ⟨_, kindWidth tokens, valueWidth tokens, tableHeading locations tokens,
      tableRule locations tokens, tokens.map (tokenRow locations tokens), table_of_not_wide fits,
      widest_cons _ _, widest_cons _ _, table_rows locations tokens, cells_heading,
      tableRule_toList locations tokens, ?_⟩
    rw [List.forall₂_map_right_iff, List.forall₂_same]
    exact fun token among => cells_tokenRow among
  · intro tokens others output written written'
    have same := (eq_of_table written).symm.trans (eq_of_table written')
    have others_rows := table_rows locations others
    rw [← same] at others_rows
    have rows := (table_rows locations tokens).unique others_rows
    obtain ⟨_, below⟩ := List.cons.inj rows
    obtain ⟨rules, behind⟩ := List.cons.inj below
    exact agree_of_rows (kindWidth_of_rule rules) behind

/-- One character more in a column than it has room for. -/
theorem table_of_wide_number :
    table true (scan (Text.repeated '1' 65536)).tokens = .error .wideColumn ∧
    (scan (Text.repeated '1' 65536)).failure = none := by
  obtain ⟨finished, wide⟩ := wide_number (by decide : Text.widthLimit < 65536)
  exact ⟨render_of_wide wide, finished⟩

/-- Two strings that differ in a blank at the end. Both are narrower than their column. -/
theorem table_tells_filled_string :
    (∃ output, table true (scan "\"a\"").tokens = .ok output ∧
      table true (scan "\"a \"").tokens = .ok output) ∧
    (scan "\"a\"").tokens ≠ (scan "\"a \"").tokens ∧
    List.Forall₂ (Agree true) (scan "\"a\"").tokens (scan "\"a \"").tokens := by
  obtain ⟨_, written, same⟩ := table_tells_tokens true
  have fits : ¬ Wide ⟨.table, true⟩ (scan "\"a\"").tokens := by decide +kernel
  have tables : table true (scan "\"a\"").tokens = table true (scan "\"a \"").tokens := by
    decide +kernel
  obtain ⟨output, _, _, _, _, _, first, _⟩ := written _ fits
  have second := tables.symm.trans first
  exact ⟨⟨output, first, second⟩, by decide +kernel, same _ _ output first second⟩

end TokenScan.Listing
