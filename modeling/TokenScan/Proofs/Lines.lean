import TokenScan.Text.Lines

/-! The lines of a text by rules: one rule for each way in which a line can end. `lines_eq_iff`
says that `lines` follows them. A text whose last line is ended can be cut off in front of any
other text, so that counting its line feeds gives the number of the line behind it. -/
namespace TokenScan.Text

/-- A text and its lines. What follows the last line feed is a line only if there is something. -/
inductive Cut : List Char → List (List Char) → Prop where
  | nothing : Cut [] []
  | last {line : List Char} : line ≠ [] → '\n' ∉ line → Cut line [line]
  | feed {line rest : List Char} {others : List (List Char)} : '\n' ∉ line →
      line.getLast? ≠ some '\r' → Cut rest others → Cut (line ++ '\n' :: rest) (line :: others)
  | returnFeed {line rest : List Char} {others : List (List Char)} : '\n' ∉ line →
      Cut rest others → Cut (line ++ '\r' :: '\n' :: rest) (line :: others)

/-- Nothing, or a text whose last line is ended. -/
def Ended (chars : List Char) : Prop := ∀ c, chars.getLast? = some c → c = '\n'

theorem ended_nil : Ended [] := by
  intro c last
  cases last

theorem ended_feed (before : List Char) : Ended (before ++ ['\n']) := by
  intro c last
  rw [List.getLast?_concat] at last
  exact (Option.some.inj last).symm

theorem lines_cons {c : Char} {rest : List Char} (plain : c ≠ '\n')
    (apart : c = '\r' → rest.head? ≠ some '\n') :
    lines (c :: rest) = match lines rest with
      | [] => [[c]]
      | line :: more => (c :: line) :: more := by
  apply lines.eq_4
  · exact plain
  · rintro behind rfl rfl
    exact apart rfl rfl

theorem lines_of_plain {line : List Char} (filled : line ≠ []) (plain : '\n' ∉ line) :
    lines line = [line] := by
  induction line with
  | nil => exact absurd rfl filled
  | cons c more ih =>
    obtain ⟨first, others⟩ := not_or.mp (mt List.mem_cons.mpr plain)
    have apart : c = '\r' → more.head? ≠ some '\n' :=
      fun _ next => others (List.mem_of_head? next)
    rw [lines_cons (Ne.symm first) apart]
    by_cases left : more = []
    · rw [left, lines]
    · rw [ih left others]

theorem lines_append_feed {line : List Char} (plain : '\n' ∉ line)
    (whole : line.getLast? ≠ some '\r') (rest : List Char) :
    lines (line ++ '\n' :: rest) = line :: lines rest := by
  induction line with
  | nil => rw [List.nil_append, lines]
  | cons c more ih =>
    obtain ⟨first, others⟩ := not_or.mp (mt List.mem_cons.mpr plain)
    have apart : c = '\r' → (more ++ '\n' :: rest).head? ≠ some '\n' := by
      rintro rfl next
      cases more with
      | nil => exact whole rfl
      | cons d inner =>
        obtain rfl : d = '\n' := by simpa using next
        exact others List.mem_cons_self
    have ended : more.getLast? ≠ some '\r' := by
      intro last
      apply whole
      rw [List.getLast?_cons, last]
      rfl
    rw [List.cons_append, lines_cons (Ne.symm first) apart, ih others ended]

theorem lines_append_returnFeed {line : List Char} (plain : '\n' ∉ line) (rest : List Char) :
    lines (line ++ '\r' :: '\n' :: rest) = line :: lines rest := by
  induction line with
  | nil => rw [List.nil_append, lines]
  | cons c more ih =>
    obtain ⟨first, others⟩ := not_or.mp (mt List.mem_cons.mpr plain)
    have apart : c = '\r' → (more ++ '\r' :: '\n' :: rest).head? ≠ some '\n' := by
      rintro _ next
      cases more with
      | nil => simp at next
      | cons d inner =>
        obtain rfl : d = '\n' := by simpa using next
        exact others List.mem_cons_self
    rw [List.cons_append, lines_cons (Ne.symm first) apart, ih others]

theorem Cut.lines_eq {chars : List Char} {found : List (List Char)} (cut : Cut chars found) :
    lines chars = found := by
  induction cut with
  | nothing => rw [lines]
  | last filled plain => exact lines_of_plain filled plain
  | feed plain whole _ ih => rw [lines_append_feed plain whole, ih]
  | returnFeed plain _ ih => rw [lines_append_returnFeed plain, ih]

/-- The text is cut at its first line feed, and what follows that is shorter. -/
theorem cut_lines (chars : List Char) : Cut chars (lines chars) := by
  induction size : chars.length using Nat.strongRecOn generalizing chars with
  | _ n ih =>
    by_cases feed : '\n' ∈ chars
    · obtain ⟨line, rest, rfl, plain⟩ := List.eq_append_cons_of_mem feed
      have shorter : rest.length < n := by
        rw [← size, List.length_append, List.length_cons]
        omega
      have others := ih rest.length shorter rest rfl
      by_cases whole : line.getLast? = some '\r'
      · obtain ⟨inner, rfl⟩ := List.getLast?_eq_some_iff.mp whole
        have clear : '\n' ∉ inner := fun member => plain (List.mem_append_left _ member)
        rw [List.append_assoc, List.singleton_append, lines_append_returnFeed clear]
        exact .returnFeed clear others
      · rw [lines_append_feed plain whole]
        exact .feed plain whole others
    · by_cases filled : chars = []
      · rw [filled, lines]
        exact .nothing
      · rw [lines_of_plain filled feed]
        exact .last filled feed

theorem lines_eq_iff {chars : List Char} {found : List (List Char)} :
    lines chars = found ↔ Cut chars found := by
  constructor
  · rintro rfl
    exact cut_lines chars
  · exact Cut.lines_eq

theorem Ended.right {front rest : List Char} (ended : Ended (front ++ rest)) : Ended rest := by
  intro c last
  apply ended
  rw [List.getLast?_append, last]
  rfl

theorem Ended.tail {c : Char} {rest : List Char} (ended : Ended (c :: rest)) : Ended rest :=
  @Ended.right [c] rest ended

theorem Ended.feed_mem {chars : List Char} (ended : Ended chars) (filled : chars ≠ []) :
    '\n' ∈ chars := by
  have last := ended _ (List.getLast?_eq_some_getLast filled)
  rw [← last]
  exact List.getLast_mem filled

theorem lines_append {before : List Char} (ended : Ended before) (rest : List Char) :
    lines (before ++ rest) = lines before ++ lines rest := by
  have cut := cut_lines before
  generalize lines before = found at cut ⊢
  induction cut with
  | nothing => rfl
  | last filled plain => exact absurd (ended.feed_mem filled) plain
  | feed plain whole _ ih =>
    rw [List.append_assoc, List.cons_append, lines_append_feed plain whole, ih ended.right.tail]
    rfl
  | returnFeed plain _ ih =>
    rw [List.append_assoc, List.cons_append, List.cons_append, lines_append_returnFeed plain,
      ih ended.right.tail.tail]
    rfl

/-- A line behind an ended text has as many lines before it as there are line feeds. -/
theorem length_lines {before : List Char} (ended : Ended before) :
    (lines before).length = before.count '\n' := by
  have cut := cut_lines before
  generalize lines before = found at cut ⊢
  induction cut with
  | nothing => rfl
  | last filled plain => exact absurd (ended.feed_mem filled) plain
  | feed plain whole _ ih =>
    rw [List.length_cons, ih ended.right.tail, List.count_append, List.count_eq_zero.mpr plain]
    simp
  | returnFeed plain _ ih =>
    rw [List.length_cons, ih ended.right.tail.tail, List.count_append, List.count_eq_zero.mpr plain]
    simp

/-- A part without line ends that goes on is the front of the first line. -/
theorem lines_of_front {front : List Char} (filled : front ≠ []) (plain : '\n' ∉ front)
    (whole : front.getLast? ≠ some '\r') (rest : List Char) :
    ∃ tail others, lines (front ++ rest) = (front ++ tail) :: others := by
  by_cases feed : '\n' ∈ rest
  · obtain ⟨line, behind, rfl, clear⟩ := List.eq_append_cons_of_mem feed
    by_cases carriage : line.getLast? = some '\r'
    · obtain ⟨inner, rfl⟩ := List.getLast?_eq_some_iff.mp carriage
      refine ⟨inner, lines behind, ?_⟩
      rw [List.append_assoc, List.singleton_append, ← List.append_assoc]
      apply lines_append_returnFeed
      simp only [List.mem_append, not_or] at clear ⊢
      exact ⟨plain, clear.1⟩
    · refine ⟨line, lines behind, ?_⟩
      rw [← List.append_assoc]
      apply lines_append_feed
      · rw [List.mem_append, not_or]
        exact ⟨plain, clear⟩
      · rw [List.getLast?_append]
        cases last : line.getLast? with
        | none => exact whole
        | some c => rwa [last] at carriage
  · refine ⟨rest, [], lines_of_plain ?_ ?_⟩
    · exact fun empty => filled (List.append_eq_nil_iff.mp empty).1
    · rw [List.mem_append, not_or]
      exact ⟨plain, feed⟩

end TokenScan.Text
