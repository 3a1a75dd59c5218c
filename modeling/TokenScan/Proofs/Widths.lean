import TokenScan.Listing
import TokenScan.Proofs.Scanning

/-! Which scans have a listing that is too wide to be written. It takes a token of more characters
than a column can have, a table, and locations behind it; such a token is a lexeme like any other. -/
namespace TokenScan

theorem Text.length_le_flat (text : String) : text.length ≤ (flat text).length := by
  have part (c : Char) : 1 ≤ (if c = '\n' then ['\\', 'n'] else if c = '\r' then ['\\', 'r']
      else if c = '\t' then ['\\', 't'] else [c]).length := by
    split
    · decide
    · split
      · decide
      · split <;> simp
  rw [flat, String.length_ofList, ← String.length_toList]
  induction text.toList with
  | nil => exact Nat.le_refl 0
  | cons c rest ih =>
    rw [List.flatMap_cons, List.length_append, List.length_cons, Nat.add_comm]
    exact Nat.add_le_add (part c) ih

/-- A text that is one lexeme is scanned as one. -/
theorem scan_of_lexeme {lexeme : Lexeme} {text : String} (formed : lexeme.WellFormed)
    (written : text.toList = lexeme.written) :
    (scan text).tokens = [.written lexeme .start] ∧ (scan text).failure = none := by
  have scans : Scans .start ([] ++ (lexeme.written ++ [])) [.written lexeme (Location.start.past [])]
      none := .token blank_nil formed lexeme.closed_nil (.blank blank_nil)
  rw [List.nil_append, List.append_nil, ← written] at scans
  exact scans.scan_eq

/-- A number of some more digits than a column has room for. -/
theorem wide_number {count : Nat} (long : Text.widthLimit < count) :
    (scan (Text.repeated '1' count)).failure = none ∧
    Listing.Wide ⟨.table, true⟩ (scan (Text.repeated '1' count)).tokens := by
  have digits : (Text.repeated '1' count).toList = List.replicate count '1' := String.toList_ofList
  have formed : Lexeme.WellFormed ⟨.number, Text.repeated '1' count⟩ := by
    refine .number ?_ ?_
    · rw [digits, ← List.length_pos_iff, List.length_replicate]
      exact Nat.zero_lt_of_lt long
    · rw [digits]
      intro c member
      rw [List.eq_of_mem_replicate member]
      rfl
  obtain ⟨tokens, finished⟩ := scan_of_lexeme formed rfl
  refine ⟨finished, rfl, rfl, .written ⟨.number, Text.repeated '1' count⟩ .start, ?_, ?_⟩
  · rw [tokens]
    exact List.mem_singleton_self _
  · have wide := Text.length_le_flat (Text.repeated '1' count)
    rw [Text.repeated, String.length_ofList, List.length_replicate] at wide
    exact Nat.lt_of_lt_of_le long wide

end TokenScan
