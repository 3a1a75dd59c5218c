import TokenScan.Location

/-! Stretches of a source text, from a location up to but not including another. -/
namespace TokenScan

/-- Only the offsets are known to be in order; line and column are taken on trust. -/
structure Range where
  start : Location
  finish : Location
  ordered : start.offset ≤ finish.offset
  deriving DecidableEq, Repr

namespace Range

/-- The range between two locations, refused when the second lies before the first. -/
def between? (start finish : Location) : Except Fault Range :=
  if ordered : start.offset ≤ finish.offset then .ok ⟨start, finish, ordered⟩
  else .error .reversedRange

def empty (location : Location) : Range := ⟨location, location, Nat.le_refl _⟩

def length (range : Range) : Nat := range.finish.offset - range.start.offset

def length? (range : Range) : Except Fault Nat :=
  Word.sub? range.finish.offset range.start.offset

def isEmpty (range : Range) : Bool := range.start == range.finish

def contains (range : Range) (location : Location) : Bool :=
  range.start.offset ≤ location.offset && location.offset < range.finish.offset

/-- By start, then by finish. -/
instance : Ord Range where
  compare a b := (compare a.start b.start).then (compare a.finish b.finish)

theorem length?_eq (range : Range) : range.length? = .ok range.length := if_pos range.ordered

theorem between?_eq_ok_iff {start finish : Location} {range : Range} :
    between? start finish = .ok range ↔ range.start = start ∧ range.finish = finish := by
  unfold between?
  obtain ⟨first, last, ordered⟩ := range
  split
  · simp [eq_comm]
  · rename_i reversed
    simp only [reduceCtorEq, false_iff, not_and]
    rintro rfl rfl
    exact reversed ordered

end Range

end TokenScan
