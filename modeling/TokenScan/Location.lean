import TokenScan.Word

/-! Positions in a source text: how many characters, line feeds, and characters since the
last line feed come before. All three count characters from zero, whatever their encoding. -/
namespace TokenScan

structure Location where
  offset : Nat
  line : Nat
  column : Nat
  deriving DecidableEq, Repr

namespace Location

def start : Location := ⟨0, 0, 0⟩

/-- The location just after `c`, when `c` stands here. -/
def advance (location : Location) (c : Char) : Location :=
  if c = '\n' then ⟨location.offset + 1, location.line + 1, 0⟩
  else ⟨location.offset + 1, location.line, location.column + 1⟩

/-- The location just after a whole text that starts here. -/
def past (location : Location) (chars : List Char) : Location := chars.foldl advance location

@[simp] theorem past_nil (location : Location) : location.past [] = location := rfl

@[simp] theorem past_cons (location : Location) (c : Char) (rest : List Char) :
    location.past (c :: rest) = (location.advance c).past rest := rfl

theorem past_append (location : Location) (first second : List Char) :
    location.past (first ++ second) = (location.past first).past second := List.foldl_append

def advance? (location : Location) (c : Char) : Except Fault Location := do
  let offset ← Word.succ? location.offset
  if c = '\n' then
    let line ← Word.succ? location.line
    return ⟨offset, line, 0⟩
  else
    let column ← Word.succ? location.column
    return ⟨offset, location.line, column⟩

def past? (location : Location) (chars : List Char) : Except Fault Location :=
  chars.foldlM advance? location

theorem agrees_advance? (location : Location) (c : Char) :
    Agrees (location.advance? c) (location.advance c) := by
  apply (Word.agrees_succ? _).bind
  by_cases feed : c = '\n'
  · rw [if_pos feed, advance, if_pos feed]
    exact (Word.agrees_succ? _).bind (agrees_pure _)
  · rw [if_neg feed, advance, if_neg feed]
    exact (Word.agrees_succ? _).bind (agrees_pure _)

theorem agrees_past? (location : Location) (chars : List Char) :
    Agrees (location.past? chars) (location.past chars) := by
  induction chars generalizing location with
  | nil => exact agrees_pure location
  | cons c rest ih =>
    rw [past?, List.foldlM_cons]
    exact (location.agrees_advance? c).bind (ih (location.advance c))

@[simp] theorem advance_offset (location : Location) (c : Char) :
    (location.advance c).offset = location.offset + 1 := by
  unfold advance; split <;> rfl

@[simp] theorem past_offset (location : Location) (chars : List Char) :
    (location.past chars).offset = location.offset + chars.length := by
  induction chars generalizing location with
  | nil => rfl
  | cons c rest ih => simp [ih]; omega

theorem past_start_offset (chars : List Char) : (start.past chars).offset = chars.length := by
  rw [past_offset]
  exact Nat.zero_add _

/-- By offset, then line, then column. Within one text the offset decides alone. -/
instance : Ord Location where
  compare a b := (compare a.offset b.offset).then
    ((compare a.line b.line).then (compare a.column b.column))

/-- The line and column as people count them, from one. -/
def label (location : Location) : String :=
  s!"{location.line + 1}:{location.column + 1}"

def label? (location : Location) : Except Fault String := do
  let line ← Word.succ? location.line
  let column ← Word.succ? location.column
  return s!"{line}:{column}"

def Labelled (location : Location) : Prop :=
  location.line + 1 < Word.size ∧ location.column + 1 < Word.size

instance (location : Location) : Decidable location.Labelled := by
  unfold Labelled; infer_instance

theorem label?_eq (location : Location) :
    location.label? = if location.Labelled then .ok location.label else .error .overflow := by
  by_cases line : location.line + 1 < Word.size <;>
    by_cases column : location.column + 1 < Word.size <;>
    simp [label?,label,Labelled,Word.succ?,line,column,bind,Except.bind,pure,Except.pure]

theorem agrees_label? (location : Location) : Agrees location.label? location.label := by
  rw [label?_eq]
  intro given run
  split at run
  · exact (Except.ok.inj run).symm
  · cases run

end Location

end TokenScan
