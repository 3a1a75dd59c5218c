import TokenScan.Diagnostic
import TokenScan.Proofs.Lines
import TokenScan.Proofs.Places

/-! What a diagnostic shows, row by row, and that its marks stand under the right characters. A
location counts line feeds, and the lines of a source are cut at line feeds and may leave a
carriage return out; both agree on the line and the column of every character that is shown. -/
namespace TokenScan

/-- The text before a place: the lines before its line, and the front of its own line. -/
theorem exists_line_front (front : List Char) : ∃ before line, front = before ++ line ∧
    Text.Ended before ∧ '\n' ∉ line := by
  by_cases feed : '\n' ∈ front
  · obtain ⟨back, rest, parts, plain⟩ := List.eq_append_cons_of_mem (List.mem_reverse.mpr feed)
    refine ⟨rest.reverse ++ ['\n'], back.reverse, ?_, Text.ended_feed _, by simpa using plain⟩
    rw [← List.reverse_reverse front, parts]
    simp
  · exact ⟨[], front, rfl, Text.ended_nil, feed⟩

theorem Location.past_column_of_ended {before : List Char} (ended : Text.Ended before) :
    (start.past before).column = 0 := by
  rcases List.eq_nil_or_concat before with rfl | ⟨front, c, rfl⟩
  · rfl
  · rw [List.concat_eq_append] at ended ⊢
    obtain rfl : c = '\n' := ended c List.getLast?_concat
    rw [past_append]
    rfl

/-- The line that a location counts is among the lines of the source, and its column too. -/
theorem line_at {source front shown rest : List Char} (parts : source = front ++ (shown ++ rest))
    (filled : shown ≠ []) (inline : ∀ c ∈ shown, c ≠ '\n' ∧ c ≠ '\r') :
    ∃ head tail,
      (Text.lines source)[(Location.start.past front).line]? = some (head ++ (shown ++ tail)) ∧
      head.length = (Location.start.past front).column := by
  obtain ⟨before, head, rfl, ended, plain⟩ := exists_line_front front
  have feedless : '\n' ∉ shown := fun member => (inline _ member).1 rfl
  have clear : '\n' ∉ head ++ shown := by
    rw [List.mem_append, not_or]
    exact ⟨plain, feedless⟩
  -- A carriage return at the end of these characters could be left out with the line's end.
  have whole : (head ++ shown).getLast? ≠ some '\r' := by
    rw [List.getLast?_append, List.getLast?_eq_some_getLast filled]
    intro last
    exact (inline _ (List.getLast_mem filled)).2 (Option.some.inj last)
  have more : head ++ shown ≠ [] := fun empty => filled (List.append_eq_nil_iff.mp empty).2
  obtain ⟨tail, others, first⟩ := Text.lines_of_front more clear whole rest
  have number : (Location.start.past (before ++ head)).line = (Text.lines before).length := by
    rw [Location.past_line, List.count_append, List.count_eq_zero.mpr plain, Text.length_lines ended]
    exact Nat.zero_add _
  refine ⟨head, tail, ?_, ?_⟩
  · rw [parts, List.append_assoc, ← List.append_assoc head, Text.lines_append ended, first, number,
      List.getElem?_append_right (Nat.le_refl _), Nat.sub_self, List.append_assoc]
    rfl
  · rw [Location.past_append, Location.past_column_of_plain _ plain,
      Location.past_column_of_ended ended, Nat.zero_add]

namespace Diagnostic

/-- All that is said before the place is named. -/
def body (diagnostic : Diagnostic) : Styled :=
  .of .redBold "error" ++ ↑": " ++ .of .bold diagnostic.message ++ ↑"\n\n" ++
    (diagnostic.previousLine.elim [] (diagnostic.shownLine false)) ++
    diagnostic.shownLine true diagnostic.primaryLine ++
    diagnostic.indicator ++
    (diagnostic.followingLine.elim [] (diagnostic.shownLine false))

theorem render_eq (coloured : Bool) (diagnostic : Diagnostic) : diagnostic.render coloured =
    diagnostic.body.render coloured ++
      s!"\nIn {diagnostic.name}:{diagnostic.range.start.label}\n\n" := by
  rw [render, styled, Styled.render_append, Styled.render_plain]
  rfl

/-- A row of the excerpt: what stands in the margin, and what stands beside it. -/
def row (margin text : List Char) : List Char := margin ++ ([' ', '|', ' '] ++ text)

def number (diagnostic : Diagnostic) : List Char :=
  (toString (diagnostic.range.start.line + 1)).toList

/-- As wide as the number, with nothing in it. -/
def noNumber (diagnostic : Diagnostic) : List Char := List.replicate diagnostic.number.length ' '

def numberedRow (diagnostic : Diagnostic) (line : List Char) : List Char := row diagnostic.number line

/-- The caret under the first character, a tilde under each further one, and the hint. -/
def markRow (diagnostic : Diagnostic) (marks : Nat) : List Char :=
  row diagnostic.noNumber (List.replicate diagnostic.range.start.column ' ' ++
    ('^' :: List.replicate (marks - 1) '~' ++
      (' ' :: diagnostic.hint.elim [] fun hint => "hint: ".toList ++ hint.toList)))

/-- The rows, given what is shown above and below the line of the place. -/
def rows (diagnostic : Diagnostic) (marks : Nat) (above : Option (List Char)) (primary : List Char)
    (below : Option (List Char)) : List (List Char) :=
  ["error: ".toList ++ diagnostic.message.toList, []] ++
    above.toList.map (row diagnostic.noNumber) ++
    [diagnostic.numberedRow primary, diagnostic.markRow marks] ++
    below.toList.map (row diagnostic.noNumber) ++
    [[], "In ".toList ++ diagnostic.name.toList ++ ':' :: diagnostic.range.start.label.toList, []]

theorem span_uncoloured (span : Span) : span.render false = span.text := rfl

theorem gutter_toList (diagnostic : Diagnostic) :
    ((diagnostic.gutter true).render false).toList = diagnostic.number ++ [' ', '|', ' '] ∧
    ((diagnostic.gutter false).render false).toList = diagnostic.noNumber ++ [' ', '|', ' '] := by
  have width : diagnostic.lineNumber.length = diagnostic.number.length := String.length_toList.symm
  constructor
  · simp [gutter, span_uncoloured]
    rfl
  · simp [gutter, span_uncoloured, Text.spaces, Text.repeated, noNumber, width]

theorem shownLine_rows (diagnostic : Diagnostic) (line : List Char) :
    ((diagnostic.shownLine true line).render false).toList = diagnostic.numberedRow line ++ ['\n'] ∧
    ((diagnostic.shownLine false line).render false).toList =
      row diagnostic.noNumber line ++ ['\n'] := by
  obtain ⟨numbered, plain⟩ := diagnostic.gutter_toList
  constructor
  · simp [shownLine, numbered, span_uncoloured, numberedRow, row]
  · simp [shownLine, plain, span_uncoloured, row]

theorem indicator_row (diagnostic : Diagnostic) : (diagnostic.indicator.render false).toList =
    diagnostic.markRow diagnostic.range.length ++ ['\n'] := by
  obtain ⟨_, plain⟩ := diagnostic.gutter_toList
  cases hint : diagnostic.hint with
  | none => simp [indicator, plain, span_uncoloured, hint, markRow, row, Text.spaces, Text.repeated]
  | some text =>
    simp [indicator, plain, span_uncoloured, hint, markRow, row, Text.spaces, Text.repeated]

/-- Every row is ended by a line feed. -/
theorem render_rows (diagnostic : Diagnostic) : (diagnostic.render false).toList =
    (diagnostic.rows diagnostic.range.length diagnostic.previousLine diagnostic.primaryLine
      diagnostic.followingLine).flatMap (· ++ ['\n']) := by
  have neighbour (line : Option (List Char)) :
      (Styled.render false (line.elim [] (diagnostic.shownLine false))).toList =
        (line.toList.map (row diagnostic.noNumber)).flatMap (· ++ ['\n']) := by
    cases line with
    | none => rfl
    | some text => simpa using (diagnostic.shownLine_rows text).2
  rw [render_eq, body]
  simp only [Styled.render_append, String.toList_append, neighbour, indicator_row,
    (diagnostic.shownLine_rows _).1, rows, List.flatMap_append]
  simp [span_uncoloured]
  rfl

theorem splitOn_flatMap {rows : List (List Char)} (single : ∀ row ∈ rows, '\n' ∉ row) :
    (rows.flatMap (· ++ ['\n'])).splitOn '\n' = rows ++ [[]] := by
  induction rows with
  | nil => rfl
  | cons row rows ih =>
    have first : '\n' ∉ row := single row List.mem_cons_self
    have others := ih fun other member => single other (List.mem_cons_of_mem _ member)
    rw [List.flatMap_cons, List.append_assoc, List.singleton_append,
      List.splitOn_append_cons_self_of_not_mem first, others]
    rfl

theorem newline_not_mem_toString (n : Nat) : '\n' ∉ (toString n).toList := by
  rw [Nat.toString_eq_repr, Nat.toList_repr]
  intro member
  have digit := Nat.isDigit_of_mem_toDigits (by decide) (by decide) member
  exact absurd digit (by decide)

theorem newline_not_mem_label (location : Location) : '\n' ∉ location.label.toList := by
  have line := newline_not_mem_toString (location.line + 1)
  have column := newline_not_mem_toString (location.column + 1)
  simp only [Location.label, String.toList_append, List.mem_append, not_or]
  exact ⟨⟨line, by decide⟩, column⟩

theorem newline_not_mem_row {margin text : List Char} (first : '\n' ∉ margin) (second : '\n' ∉ text) :
    '\n' ∉ row margin text := by
  simp [row, first, second]

/-- A source is cut into its lines before it is shown, so rows stay rows whatever it holds. -/
theorem newline_not_mem_rows {diagnostic : Diagnostic} (name : '\n' ∉ diagnostic.name.toList)
    (message : '\n' ∉ diagnostic.message.toList)
    (hint : ∀ text, diagnostic.hint = some text → '\n' ∉ text.toList) (marks : Nat) :
    ∀ row ∈ diagnostic.rows marks diagnostic.previousLine diagnostic.primaryLine
      diagnostic.followingLine, '\n' ∉ row := by
  have lines : ∀ (k : Nat) (line : List Char),
      (Text.lines diagnostic.source.toList)[k]? = some line → '\n' ∉ line :=
    fun k line found => Text.newline_not_mem_of_mem_lines _ line (List.mem_of_getElem? found)
  have number : '\n' ∉ diagnostic.number := newline_not_mem_toString _
  have noNumber : '\n' ∉ diagnostic.noNumber := by
    simp [Diagnostic.noNumber]
  have above : ∀ line, diagnostic.previousLine = some line → '\n' ∉ line := by
    intro line found
    unfold previousLine at found
    split at found
    · cases found
    · exact lines _ line (Option.filter_eq_some_iff.mp found).1
  have primary : '\n' ∉ diagnostic.primaryLine := by
    rw [primaryLine]
    cases found : (Text.lines diagnostic.source.toList)[diagnostic.range.start.line]? with
    | none => exact List.not_mem_nil
    | some line => exact lines _ line found
  have hinted : '\n' ∉ (diagnostic.hint.elim [] fun hint => "hint: ".toList ++ hint.toList) := by
    cases given : diagnostic.hint with
    | none => exact List.not_mem_nil
    | some text => simpa using hint text given
  intro row member
  simp only [rows, List.mem_append, List.mem_map, Option.mem_toList, List.mem_cons,
    List.not_mem_nil, or_false] at member
  rcases member with ((((rfl | rfl) | ⟨line, found, rfl⟩) | rfl | rfl) | ⟨line, found, rfl⟩) |
    rfl | rfl | rfl
  · simpa using message
  · exact List.not_mem_nil
  · exact newline_not_mem_row noNumber (above line found)
  · exact newline_not_mem_row number primary
  · apply newline_not_mem_row noNumber
    simp only [List.mem_append, List.mem_cons, not_or]
    exact ⟨by simp, ⟨by decide, by simp⟩, by decide, hinted⟩
  · exact newline_not_mem_row noNumber (lines _ line found)
  · exact List.not_mem_nil
  · simp only [List.mem_append, List.mem_cons, not_or]
    exact ⟨⟨by decide, name⟩, by decide, newline_not_mem_label _⟩
  · exact List.not_mem_nil

/-- What is shown of the source around the characters from `i` to before `j`, which are marked. -/
structure Points (diagnostic : Diagnostic) (i j : Nat) (lines : List (List Char))
    (above : Option (List Char)) (primary : List Char) (below : Option (List Char)) : Prop where
  cut : Text.Cut diagnostic.source.toList lines
  split : (diagnostic.render false).toList.splitOn '\n' =
    diagnostic.rows (j - i) above primary below ++ [[]]
  own : primary = lines[diagnostic.range.start.line]?.getD []
  preceding : ∀ line, above = some line ↔ ∃ before, diagnostic.range.start.line = before + 1 ∧
    lines[before]? = some line ∧ ∃ c ∈ line, Text.isBlank c = false
  following : below = lines[diagnostic.range.start.line + 1]?
  /-- Margin and column together lead to the caret, and to the first character marked. -/
  caret : (diagnostic.markRow (j - i))[diagnostic.number.length + 3 + diagnostic.range.start.column]? =
    some '^'
  marked : ∀ k, k < j - i →
    let place := diagnostic.number.length + 3 + diagnostic.range.start.column + k
    (diagnostic.markRow (j - i))[place]? = some (if k = 0 then '^' else '~') ∧
    (diagnostic.numberedRow primary)[place]? = diagnostic.source.toList[i + k]?

theorem previousLine_eq_some_iff {diagnostic : Diagnostic} {line : List Char} :
    diagnostic.previousLine = some line ↔ ∃ before, diagnostic.range.start.line = before + 1 ∧
      (Text.lines diagnostic.source.toList)[before]? = some line ∧
      ∃ c ∈ line, Text.isBlank c = false := by
  unfold previousLine
  split
  · rename_i first
    simp [first]
  · rename_i before number
    simp [number, Option.filter_eq_some_iff]

theorem row_at (margin text : List Char) (place : Nat) :
    (row margin text)[margin.length + 3 + place]? = text[place]? := by
  have margined : margin.length + 3 + place = (margin ++ [' ', '|', ' ']).length + place := by simp
  rw [row, ← List.append_assoc, margined, List.getElem?_append_right (Nat.le_add_right _ _),
    Nat.add_sub_cancel_left]

/-- Behind margin and column stand the caret and one tilde for each further mark. -/
theorem markRow_at (diagnostic : Diagnostic) (marks k : Nat) (within : k < max marks 1) :
    (diagnostic.markRow marks)[diagnostic.number.length + 3 + (diagnostic.range.start.column + k)]? =
      some (if k = 0 then '^' else '~') := by
  have margin : diagnostic.number.length = diagnostic.noNumber.length := by simp [noNumber]
  rw [margin, markRow, row_at, List.getElem?_append_right (by simp)]
  cases k with
  | zero => simp
  | succ k =>
    have inside : k < marks - 1 := by omega
    simp [List.getElem?_append, inside]

/-- Line and column of a place lead to it. -/
theorem numberedRow_at {diagnostic : Diagnostic} {front shown rest : List Char}
    (parts : diagnostic.source.toList = front ++ (shown ++ rest))
    (starts : diagnostic.range.start = Location.start.past front)
    (inline : ∀ c ∈ shown, c ≠ '\n' ∧ c ≠ '\r') {k : Nat} (within : k < shown.length) :
    (diagnostic.numberedRow diagnostic.primaryLine)[
      diagnostic.number.length + 3 + (diagnostic.range.start.column + k)]? =
        diagnostic.source.toList[front.length + k]? := by
  have filled : shown ≠ [] := List.ne_nil_of_length_pos (by omega)
  obtain ⟨head, tail, found, column⟩ := line_at parts filled inline
  rw [numberedRow, row_at, primaryLine, starts, found, ← column, parts]
  simp [List.getElem?_append_right, List.getElem?_append_left within]

/-- Neither a line nor a column of a source is beyond its end. -/
theorem ofIndex_labelled {chars : List Char} {i : Nat} (fits : i + 1 < Word.size) :
    (Location.ofIndex chars i).Labelled := by
  have lines : (chars.take i).count '\n' ≤ i :=
    Nat.le_trans List.count_le_length (List.length_take_le _ _)
  constructor
  · exact Nat.lt_of_le_of_lt (Nat.add_le_add_right lines 1) fits
  · exact Nat.lt_of_le_of_lt (Nat.add_le_add_right (Nat.sub_le _ _) 1) fits

/-- For every stretch of a source within one line, its diagnostic shows the line that it starts on,
with the lines around it, and has its marks under the characters of the stretch. -/
theorem points_at_range (name source message : String) (hint : Option String) (i j : Nat)
    (ordered : i ≤ j) (within : j ≤ source.length)
    (inline : ∀ c ∈ (source.toList.drop i).take (j - i), c ≠ '\n' ∧ c ≠ '\r')
    (named : '\n' ∉ name.toList) (said : '\n' ∉ message.toList)
    (hinted : ∀ text, hint = some text → '\n' ∉ text.toList) :
    ∃ range, Range.between? (.ofIndex source.toList i) (.ofIndex source.toList j) = .ok range ∧
      ∃ lines above primary below,
        Points ⟨name, source, range, message, hint⟩ i j lines above primary below ∧
        (source.length + 1 < Word.size → render? false ⟨name, source, range, message, hint⟩ =
          .ok (render false ⟨name, source, range, message, hint⟩)) := by
  have size : source.toList.length = source.length := String.length_toList
  have front : (source.toList.take i).length = i := by
    rw [List.length_take]
    omega
  have starts : Location.ofIndex source.toList i = Location.start.past (source.toList.take i) := by
    rw [Location.past_eq_ofIndex _ (source.toList.drop i), List.take_append_drop, front]
  let range : Range := ⟨.ofIndex source.toList i, .ofIndex source.toList j, ordered⟩
  let diagnostic : Diagnostic := ⟨name, source, range, message, hint⟩
  have parts : source.toList = source.toList.take i ++
      ((source.toList.drop i).take (j - i) ++ (source.toList.drop i).drop (j - i)) := by
    rw [List.take_append_drop, List.take_append_drop]
  have points : Points diagnostic i j (Text.lines source.toList) diagnostic.previousLine
      diagnostic.primaryLine diagnostic.followingLine := by
    constructor
    case cut => exact Text.cut_lines _
    case split =>
      rw [render_rows]
      exact splitOn_flatMap (newline_not_mem_rows named said hinted _)
    case own => rfl
    case preceding => exact fun line => previousLine_eq_some_iff
    case following => rfl
    case caret => exact diagnostic.markRow_at (j - i) 0 (by omega)
    case marked =>
      intro k inside
      have marks := diagnostic.markRow_at (j - i) k (by omega)
      have marked : k < ((source.toList.drop i).take (j - i)).length := by
        rw [List.length_take, List.length_drop]
        omega
      have under := @numberedRow_at diagnostic _ _ _ parts starts inline k marked
      rw [front] at under
      simp only [Nat.add_assoc] at marks under ⊢
      exact ⟨marks, under⟩
  refine ⟨range, Range.between?_eq_ok_iff.mpr ⟨rfl, rfl⟩, _, _, _, _, points, fun fits => ?_⟩
  have labelled : range.start.Labelled := ofIndex_labelled (by omega)
  rw [render?_eq, if_pos labelled]

/-- Two characters on the second line, below a line with a carriage return of its own. -/
theorem points_at_dollars :
    ∃ range, Range.between? (.ofIndex "let x\r\n  y = $$;\n \n".toList 13)
        (.ofIndex "let x\r\n  y = $$;\n \n".toList 15) = .ok range ∧
      render false ⟨"<source>", "let x\r\n  y = $$;\n \n", range, "Odd", none⟩ =
        "error: Odd\n\n  | let x\n2 |   y = $$;\n  |       ^~ \n  |  \n\nIn <source>:2:7\n\n" ∧
      ∃ lines above primary below,
        Points ⟨"<source>", "let x\r\n  y = $$;\n \n", range, "Odd", none⟩ 13 15 lines above primary
          below := by
  obtain ⟨range, between, lines, above, primary, below, points, -⟩ :=
    points_at_range "<source>" "let x\r\n  y = $$;\n \n" "Odd" none 13 15 (by decide) (by decide)
      (by simp) (by decide) (by decide) (by simp)
  refine ⟨range, between, ?_, lines, above, primary, below, points⟩
  obtain ⟨start, finish⟩ := Range.between?_eq_ok_iff.mp between
  obtain ⟨first, last, ordered⟩ := range
  subst start finish
  clear between points
  revert ordered
  decide +kernel

end Diagnostic

end TokenScan
