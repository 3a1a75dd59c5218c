import TokenScan.Proofs.Labels
import TokenScan.Range

/-! The locations of one source are in one order, however they are compared: as a whole, by line and
column, or by offset alone. Reading one character more moves a location forward in each of these
orders, although the column starts again with every line; so a longer front part of the source leads
to a later location. -/
namespace TokenScan

namespace Location

/-- By line, then by column. -/
def Precedes (first second : Location) : Prop :=
  first.line < second.line ∨ first.line = second.line ∧ first.column < second.column

/-- The location that reading this many characters of a source leads to. -/
def reached (source : String) (count : Nat) : Location := start.past (source.toList.take count)

theorem Precedes.trans {first second third : Location} (before : first.Precedes second)
    (behind : second.Precedes third) : first.Precedes third := by
  rcases before with line | ⟨line, column⟩
  · rcases behind with more | ⟨more, _⟩
    · exact .inl (by omega)
    · exact .inl (by omega)
  · rcases behind with more | ⟨more, further⟩
    · exact .inl (by omega)
    · exact .inr (by omega)

theorem precedes_advance (location : Location) (c : Char) :
    location.Precedes (location.advance c) := by
  by_cases feed : c = '\n'
  · left
    simp [advance, feed]
  · right
    simp [advance, feed]

theorem precedes_past (location : Location) {chars : List Char} (filled : chars ≠ []) :
    location.Precedes (location.past chars) := by
  induction chars generalizing location with
  | nil => exact absurd rfl filled
  | cons c rest ih =>
    have step := location.precedes_advance c
    by_cases last : rest = []
    · simpa [last] using step
    · exact step.trans (ih (location.advance c) last)

theorem compare_of_offset {first second : Location} (before : first.offset < second.offset) :
    compare first second = .lt := by
  have offsets : compare first.offset second.offset = .lt := Nat.compare_eq_lt.mpr before
  change (compare first.offset second.offset).then _ = .lt
  rw [offsets]
  rfl

variable {source : String} {i j k : Nat}

theorem reached_offset (within : i ≤ source.length) : (reached source i).offset = i := by
  rw [reached, past_start_offset, List.length_take, String.length_toList]
  omega

/-- What lies between two places is read from the first one on. -/
theorem reached_past (ordered : i ≤ j) :
    reached source j = (reached source i).past ((source.toList.take j).drop i) := by
  have front : source.toList.take i = (source.toList.take j).take i := by
    rw [List.take_take, Nat.min_eq_left ordered]
  rw [reached, reached, front, ← past_append, List.take_append_drop]

theorem reached_precedes (before : i < j) (within : j ≤ source.length) :
    (reached source i).Precedes (reached source j) := by
  have filled : (source.toList.take j).drop i ≠ [] := by
    intro empty
    have length := congrArg List.length empty
    simp only [List.length_drop, List.length_take, String.length_toList, List.length_nil] at length
    omega
  rw [reached_past (Nat.le_of_lt before)]
  exact precedes_past _ filled

/-- Places that people are shown as one and the same are the same. -/
theorem reached_label_injective (first : i ≤ source.length) (second : j ≤ source.length)
    (same : (reached source i).label = (reached source j).label) : i = j := by
  obtain ⟨line, column⟩ := label_eq_iff.mp same
  have apart {a b : Location} (lines : a.line = b.line) (columns : a.column = b.column) :
      ¬ a.Precedes b := by
    rintro (earlier | ⟨_, earlier⟩)
    · omega
    · omega
  rcases Nat.lt_trichotomy i j with before | same | behind
  · exact absurd (reached_precedes before second) (apart line column)
  · exact same
  · exact absurd (reached_precedes behind first) (apart line.symm column.symm)

end Location

namespace Range

open Location

/-- The range covers the characters of the source from `i` on to before `j`. -/
structure Covers (source : String) (i j : Nat) (range : Range) : Prop where
  length : range.length = j - i
  contains : ∀ k ≤ source.length, range.contains (reached source k) = true ↔ i ≤ k ∧ k < j
  empty : range.isEmpty = true ↔ range.length = 0
  vacant : range.length = 0 ↔ ∀ k ≤ source.length, range.contains (reached source k) = false

variable {source : String} {i j : Nat} {range : Range}

theorem contains_iff (first : range.start.offset = i) (last : range.finish.offset = j)
    (location : Location) :
    range.contains location = true ↔ i ≤ location.offset ∧ location.offset < j := by
  simp [contains, first, last]

theorem covers_of_reached (ordered : i ≤ j) (within : j ≤ source.length)
    (start : range.start = reached source i) (finish : range.finish = reached source j) :
    range.Covers source i j := by
  have first : range.start.offset = i := by
    rw [start, reached_offset (Nat.le_trans ordered within)]
  have last : range.finish.offset = j := by
    rw [finish, reached_offset within]
  have length : range.length = j - i := by
    rw [Range.length, first, last]
  have contains : ∀ k ≤ source.length,
      range.contains (reached source k) = true ↔ i ≤ k ∧ k < j := by
    intro k inside
    rw [contains_iff first last, reached_offset inside]
  constructor
  · exact length
  · exact contains
  · -- Whole locations are the same just where their offsets are.
    rw [isEmpty, beq_iff_eq, start, finish, length]
    constructor
    · intro same
      have offsets := congrArg Location.offset same
      rw [reached_offset (Nat.le_trans ordered within), reached_offset within] at offsets
      omega
    · intro none
      obtain rfl : i = j := by omega
      rfl
  · rw [length]
    constructor
    · intro none k inside
      rw [Bool.eq_false_iff]
      intro member
      have placed := (contains k inside).mp member
      omega
    · intro none
      rcases Nat.eq_or_lt_of_le ordered with same | before
      · omega
      · have member := (contains i (Nat.le_trans ordered within)).mpr ⟨Nat.le_refl i, before⟩
        rw [none i (Nat.le_trans ordered within)] at member
        cases member

end Range

open Location in
/-- Of two places in a source the one further on is later in every order, and is shown differently;
and the range between them holds just the places from the first on to before the second. -/
theorem locations_in_order (source : String) (i j : Nat) (ordered : i ≤ j)
    (within : j ≤ source.length) :
    (i < j → compare (reached source i) (reached source j) = .lt ∧
      (reached source i).Precedes (reached source j) ∧
      (reached source i).label ≠ (reached source j).label) ∧
    ∃ range, Range.between? (reached source i) (reached source j) = .ok range ∧
      range.Covers source i j := by
  have inside : i ≤ source.length := Nat.le_trans ordered within
  have offsets : (reached source i).offset ≤ (reached source j).offset := by
    rw [reached_offset inside, reached_offset within]
    exact ordered
  constructor
  · intro before
    refine ⟨?_, reached_precedes before within, ?_⟩
    · apply compare_of_offset
      rw [reached_offset inside, reached_offset within]
      exact before
    · intro same
      exact absurd (reached_label_injective inside within same) (Nat.ne_of_lt before)
  · refine ⟨⟨_, _, offsets⟩, Range.between?_eq_ok_iff.mpr ⟨rfl, rfl⟩, ?_⟩
    exact Range.covers_of_reached ordered within rfl rfl

open Location in
/-- Two places in the same column, with an empty line between them. -/
theorem locations_in_order_over_lines :
    1 ≤ 4 ∧ 4 ≤ "a\n\nbc".length ∧
    reached "a\n\nbc" 1 = ⟨1, 0, 1⟩ ∧ reached "a\n\nbc" 4 = ⟨4, 2, 1⟩ ∧
    compare (reached "a\n\nbc" 1) (reached "a\n\nbc" 4) = .lt ∧
    (reached "a\n\nbc" 1).Precedes (reached "a\n\nbc" 4) ∧
    (reached "a\n\nbc" 1).label ≠ (reached "a\n\nbc" 4).label ∧
    ∃ range, Range.between? ⟨1, 0, 1⟩ ⟨4, 2, 1⟩ = .ok range ∧ range.Covers "a\n\nbc" 1 4 := by
  have within : 4 ≤ "a\n\nbc".length := by decide
  obtain ⟨ordered, range⟩ := locations_in_order "a\n\nbc" 1 4 (by omega) within
  obtain ⟨before, precedes, apart⟩ := ordered (by omega)
  exact ⟨by omega, within, rfl, rfl, before, precedes, apart, range⟩

end TokenScan
