import TokenScan.Proofs.Misfits
import TokenScan.Proofs.Styles

/-! The words in which a value of the configuration is refused. A text is quoted so that nothing in
it goes unseen, and of other values their digits or their types are said. Only the name of an unknown
format stands there as it is. -/
namespace TokenScan

namespace Text

/-- The character is not shown, so it is among those that are given by their code point. -/
theorem escape_not_mem_escapedInQuotes (c : Char) : escape ∉ escapedInQuotes c := by
  have digits := escape_not_mem_toDigits (by decide : 1 < 16) c.toNat
  intro member
  unfold escapedInQuotes at member
  iterate 6
    split at member
    · exact absurd member (by decide)
  split at member
  · rename_i shown
    obtain rfl := List.mem_singleton.mp member
    exact absurd shown (by decide)
  · simp [digits] at member
    exact absurd member (by decide)

theorem bare_quoted (text : String) : Bare (quoted text) := by
  rw [quoted, bare_ofList, List.mem_append, List.mem_cons, List.mem_flatMap]
  rintro ((mark | ⟨c, _, inside⟩) | mark)
  · exact absurd mark (by decide)
  · exact escape_not_mem_escapedInQuotes c inside
  · exact absurd mark (by decide)

theorem bare_int (value : Int) : Bare (toString value) := by
  cases value with
  | ofNat value => exact bare_repr value
  | negSucc value => exact (bare_append _ _).mpr ⟨by decide, bare_repr _⟩

end Text

namespace Decimal

theorem Numeral.bare_positional (numeral : Numeral) : Text.Bare numeral.positional := by
  have digits := escape_not_mem_toDigits (by decide : 1 < 10) numeral.coefficient
  have zeros (count : Nat) : escape ∉ List.replicate count '0' := by
    intro member
    exact absurd (List.eq_of_mem_replicate member) (by decide)
  unfold Numeral.positional
  split
  · simp +decide [digits, zeros]
  · rename_i power _
    have padded : escape ∉ List.replicate (power + 2 - (Nat.toDigits 10 numeral.coefficient).length) '0' ++
        Nat.toDigits 10 numeral.coefficient := by
      simp [digits, zeros]
    simp only [Text.bare_append, Text.bare_ofList]
    refine ⟨⟨fun inside => padded (List.take_subset _ _ inside), by decide⟩, ?_⟩
    split
    · decide
    · intro inside
      have kept := (List.dropWhile_sublist _).subset (List.mem_reverse.mp inside)
      exact padded (List.drop_subset _ _ (List.mem_reverse.mp kept))

theorem Binary64.bare_text (number : Binary64) : Text.Bare number.text := by
  cases number with
  | finite negative significand exponent =>
    have sign : Text.Bare (if negative then "-" else "") := by
      cases negative <;> decide
    refine (Text.bare_append _ _).mpr ⟨sign, ?_⟩
    split
    · decide
    · exact Numeral.bare_positional _
  | infinite negative => cases negative <;> decide
  | notANumber => decide

end Decimal

namespace Settings

theorem bare_described (value : Toml.Value) : Text.Bare (described value) := by
  unfold described
  cases value with
  | text value => exact (Text.bare_append _ _).mpr ⟨by decide, Text.bare_quoted value⟩
  | integer value =>
    have digits := Text.bare_int value
    simp only [Text.bare_append, Text.bare_toString]
    exact ⟨⟨by decide, digits⟩, by decide⟩
  | float value =>
    have digits := value.bare_text
    simp only [Text.bare_append, Text.bare_toString]
    exact ⟨⟨by decide, digits⟩, by decide⟩
  | boolean value => cases value <;> decide
  | array | elements => exact (by decide : Text.Bare "sequence")
  | moment | table => exact (by decide : Text.Bare "map")

theorem bare_typeName (value : Toml.Value) : Text.Bare (typeName value) := by
  cases value <;> simp +decide [typeName]

theorem Misfit.bare_message {misfit : Misfit}
    (titled : ∀ name found, misfit = .notSection name found → Text.Bare name)
    (plain : ∀ name, misfit = .unknownFormat name → Text.Bare name) :
    Text.Bare misfit.message := by
  unfold message
  cases misfit with
  | notBoolean found =>
    have said := bare_described found
    simp only [Text.bare_append, Text.bare_toString]
    exact ⟨⟨by decide, said⟩, by decide⟩
  | notSection name found =>
    have said := bare_described found
    have title := titled name found rfl
    simp only [Text.bare_append, Text.bare_toString]
    exact ⟨⟨⟨by decide, said⟩, by decide⟩, title⟩
  | unknownFormat name =>
    have named := plain name rfl
    simp only [Text.bare_append, Text.bare_toString]
    exact ⟨⟨⟨by decide, named⟩, by decide⟩, by decide⟩
  | notFormat | noChoice | severalChoices | notEmpty | notEmptyElements => decide
  | notTable found =>
    have said := bare_typeName found
    simp only [Text.bare_append, Text.bare_toString]
    exact ⟨by decide, said⟩

theorem bare_title {name : String} {part : Section} (known : sectionAt name = some part) :
    Text.Bare part.title := by
  unfold sectionAt at known
  split at known
  · obtain rfl := Option.some.inj known
    decide
  · obtain rfl := Option.some.inj known
    decide
  · cases known

/-- What a document is refused with repeats nothing of it as it is but the name of a format. -/
theorem bare_message_of_read {document : String} {misfit : Misfit}
    (refused : read document = .error (.misfit misfit))
    (plain : ∀ name, misfit = .unknownFormat name → Text.Bare name) :
    Text.Bare misfit.message := by
  refine misfit.bare_message ?_ plain
  rintro name found rfl
  unfold read at refused
  split at refused
  · cases refused
  rename_i table _
  cases reads : ofTable table with
  | ok settings =>
    rw [reads] at refused
    cases refused
  | error misfit =>
    rw [reads] at refused
    cases refused
    obtain ⟨_, _, _, _, _, entry⟩ := ofTable_eq_error_iff.mp reads
    cases entry with
    | scalar known => exact bare_title known
    | field known field =>
      obtain ⟨_, _, _, _, _, inside⟩ := field
      cases inside with
      | format format =>
        cases format with
        | content _ content => cases content

end Settings

end TokenScan
