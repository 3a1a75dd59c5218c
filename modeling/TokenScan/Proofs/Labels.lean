import TokenScan.Proofs.JsonWritten
import TokenScan.Proofs.Lexical
import TokenScan.Token

/-! Labels are read back from their texts. A location at the end of a text is found from that end,
since a number is the longest run of digits there; the label of a lexeme is opened by the first
parenthesis, and its own text is all up to the last one, whatever parentheses stand in it. -/
namespace TokenScan

/-- Read from behind, both texts begin with all the digits of their numbers. -/
theorem number_at_end {front other : List Char} {c d : Char} {m n : Nat}
    (stop : c.isDigit = false) (stop' : d.isDigit = false)
    (same : front ++ c :: (toString m).toList = other ++ d :: (toString n).toList) :
    front = other ∧ c = d ∧ m = n := by
  have turned : (toString m).toList.reverse ++ c :: front.reverse =
      (toString n).toList.reverse ++ d :: other.reverse := by
    simpa using congrArg List.reverse same
  have digits (k : Nat) : ∀ x ∈ (toString k).toList.reverse, x.isDigit = true :=
    fun x member => (Json.numeral_toString k).digits x (List.mem_reverse.mp member)
  obtain ⟨numbers, behind⟩ := Json.front_unique (digits m) (digits n)
    (Json.stops_cons.mpr stop) (Json.stops_cons.mpr stop') turned
  obtain ⟨rfl, fronts⟩ := List.cons.inj behind
  have counted := (Json.numeral_toString m).counted
  rw [List.reverse_inj.mp numbers, (Json.numeral_toString n).counted] at counted
  exact ⟨List.reverse_inj.mp fronts, rfl, counted.symm⟩

namespace Location

theorem label_toList (location : Location) : location.label.toList =
    (toString (location.line + 1)).toList ++ ':' :: (toString (location.column + 1)).toList := by
  simp only [label, String.toList_append, List.append_assoc]
  rfl

theorem label_at_end {front other : List Char} {c d : Char} {first second : Location}
    (stop : c.isDigit = false) (stop' : d.isDigit = false)
    (same : front ++ c :: first.label.toList = other ++ d :: second.label.toList) :
    front = other ∧ c = d ∧ first.line = second.line ∧ first.column = second.column := by
  simp only [label_toList, ← List.cons_append, ← List.append_assoc] at same
  obtain ⟨lines, _, columns⟩ := number_at_end (by decide) (by decide) same
  obtain ⟨fronts, marks, numbers⟩ := number_at_end stop stop' lines
  exact ⟨fronts, marks, Nat.succ.inj numbers, Nat.succ.inj columns⟩

theorem label_eq_iff {first second : Location} :
    first.label = second.label ↔ first.line = second.line ∧ first.column = second.column := by
  constructor
  · intro same
    have ends : [] ++ ' ' :: first.label.toList = [] ++ ' ' :: second.label.toList := by
      rw [same]
    exact (label_at_end (by decide) (by decide) ends).2.2
  · rintro ⟨line, column⟩
    rw [label, label, line, column]

end Location

theorem Kind.name_injective {first second : Kind} (same : first.name = second.name) :
    first = second := by
  have found (kind : Kind) : Kind.all.find? (fun other => other.name == kind.name) = some kind := by
    cases kind <;> rfl
  apply Option.some.inj
  rw [← found first, same, found second]

/-- The characters that the names of kinds are made of. -/
def Kind.inName (c : Char) : Bool := c.isUpper || c == '_'

/-- A name at the front of a text is told by what stops it. -/
theorem Kind.name_at_front {first second : Kind} {c d : Char} {rest left : List Char}
    (stop : inName c = false) (stop' : inName d = false)
    (same : first.name.toList ++ c :: rest = second.name.toList ++ d :: left) :
    first = second ∧ c :: rest = d :: left := by
  have named (kind : Kind) : ∀ c ∈ kind.name.toList, inName c = true := by
    cases kind
    all_goals exact List.all_eq_true.mp rfl
  obtain ⟨names, behind⟩ := Json.front_unique (named first) (named second)
    (Json.stops_cons.mpr stop) (Json.stops_cons.mpr stop') same
  exact ⟨Kind.name_injective (String.toList_inj.mp names), behind⟩

namespace Lexeme

/-- In its label a lexeme stands as it is written in a source. -/
theorem label_toList {lexeme : Lexeme} (within : lexeme.kind ≠ .endOfInput) :
    lexeme.label.toList = lexeme.kind.name.toList ++ '(' :: (lexeme.written ++ [')']) := by
  obtain ⟨kind, text⟩ := lexeme
  cases kind
  case endOfInput => exact absurd rfl within
  all_goals simp [label, written]

theorem written_injective {kind : Kind} {text other : String}
    (same : written ⟨kind, text⟩ = written ⟨kind, other⟩) : text = other := by
  apply String.toList_inj.mp
  cases kind
  case stringLiteral => simpa [written] using same
  all_goals exact same

theorem label_injective {first second : Lexeme} (within : first.kind ≠ .endOfInput)
    (within' : second.kind ≠ .endOfInput) (same : first.label = second.label) : first = second := by
  have texts := congrArg String.toList same
  rw [label_toList within, label_toList within'] at texts
  obtain ⟨kinds, behind⟩ := Kind.name_at_front (by decide) (by decide) texts
  obtain ⟨kind, text⟩ := first
  obtain ⟨other, more⟩ := second
  obtain rfl : kind = other := kinds
  have written := List.append_cancel_right (List.cons.inj behind).2
  rw [written_injective written]

end Lexeme

end TokenScan
