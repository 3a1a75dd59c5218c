/-! The 64-bit words that positions are counted in. A position itself is a natural number. Functions
with a question mark check every bound that the counting has; the others are what they give where no
bound is left. -/
namespace TokenScan

/-- What makes the program break off. -/
inductive Fault where
  | overflow
  | underflow
  | reversedRange
  | wideColumn
  deriving DecidableEq, Repr

def Fault.message : Fault → String
  | .overflow => "attempt to add with overflow"
  | .underflow => "attempt to subtract with overflow"
  | .reversedRange => "assertion failed: end.offset() >= start.offset()"
  | .wideColumn => "Formatting argument out of range"

/-- If the checked computation completes, it is with this result. -/
def Agrees {α : Type} (checked : Except Fault α) (result : α) : Prop :=
  ∀ given, checked = .ok given → given = result

theorem agrees_pure {α : Type} (result : α) : Agrees (pure result) result := by
  rintro given ⟨⟩
  rfl

theorem Agrees.bind {α β : Type} {checked : Except Fault α} {next : α → Except Fault β} {middle : α}
    {result : β} (first : Agrees checked middle) (second : Agrees (next middle) result) :
    Agrees (checked >>= next) result := by
  intro given run
  cases checked with
  | error fault => cases run
  | ok value =>
    obtain rfl := first value rfl
    exact second given run

namespace Word

def size : Nat := Nat.pow 2 64

def add? (value more : Nat) : Except Fault Nat :=
  if value + more < size then .ok (value + more) else .error .overflow

def sub? (value less : Nat) : Except Fault Nat :=
  if less ≤ value then .ok (value - less) else .error .underflow

def succ? (value : Nat) : Except Fault Nat :=
  if value + 1 < size then .ok (value + 1) else .error .overflow

theorem succ?_eq_ok_iff {value next : Nat} :
    succ? value = .ok next ↔ value + 1 < size ∧ next = value + 1 := by
  by_cases room : value + 1 < size
  · simp [succ?,room,eq_comm]
  · simp [succ?,room]

theorem agrees_succ? (value : Nat) : Agrees (succ? value) (value + 1) := by
  intro given run
  exact (succ?_eq_ok_iff.mp run).2

end Word

end TokenScan
