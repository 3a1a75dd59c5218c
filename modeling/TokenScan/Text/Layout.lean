import TokenScan.Word

/-! Fitting texts into lines and columns. -/
namespace TokenScan.Text

/-- Line breaks and tabs as two characters each, so that a text stays on one line. -/
def flat (text : String) : String :=
  String.ofList (text.toList.flatMap fun c =>
    if c = '\n' then ['\\', 'n']
    else if c = '\r' then ['\\', 'r']
    else if c = '\t' then ['\\', 't']
    else [c])

def repeated (c : Char) (count : Nat) : String := String.ofList (List.replicate count c)

def spaces (count : Nat) : String := repeated ' ' count

/-- Filled up with spaces to a width in characters; a longer text is left alone. -/
def padded (width : Nat) (text : String) : String := text ++ spaces (width - text.length)

def widest (texts : List String) : Nat := texts.foldr (fun text width => max text.length width) 0

/-- A width that only a run comes up with has sixteen bits. -/
def widthLimit : Nat := 65535

def width? (width : Nat) : Except Fault Nat :=
  if width ≤ widthLimit then .ok width else .error .wideColumn

@[simp] theorem length_spaces (count : Nat) : (spaces count).length = count := by
  simp [spaces,repeated]

theorem length_padded (width : Nat) (text : String) :
    (padded width text).length = max text.length width := by
  simp [padded]; omega

theorem length_le_widest {texts : List String} {text : String} (member : text ∈ texts) :
    text.length ≤ widest texts := by
  induction texts with
  | nil => simp at member
  | cons first others ih =>
    rcases List.mem_cons.mp member with rfl | member
    · exact Nat.le_max_left _ _
    · exact Nat.le_trans (ih member) (Nat.le_max_right _ _)

theorem widest_le_iff {texts : List String} {width : Nat} :
    widest texts ≤ width ↔ ∀ text ∈ texts, text.length ≤ width := by
  constructor
  · exact fun bound text member => Nat.le_trans (length_le_widest member) bound
  · intro bound
    induction texts with
    | nil => exact Nat.zero_le width
    | cons first others ih =>
      obtain ⟨fits, others⟩ := List.forall_mem_cons.mp bound
      exact Nat.max_le.mpr ⟨fits, ih others⟩

/-- What `flat` gives has no line break and no tab. -/
theorem not_mem_flat (text : String) :
    '\n' ∉ (flat text).toList ∧ '\r' ∉ (flat text).toList ∧ '\t' ∉ (flat text).toList := by
  simp only [flat, String.toList_ofList, List.mem_flatMap, not_exists, not_and]
  refine ⟨?_, ?_, ?_⟩ <;> intro c _ <;> repeat' split
  all_goals simp_all [eq_comm]

end TokenScan.Text
