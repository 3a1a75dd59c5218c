import TokenScan.Proofs.Concatenation
import TokenScan.Proofs.Partition

/-! What of a scan is settled by the first characters of a text: every token that ends before
the last of them, and a character among them that no lexeme begins with. A token is settled by
one character behind it, so a text can be cut there, and what stands before can be joined with
anything else that goes on with the same character. -/
namespace TokenScan

variable {start place : Location} {chars other front rest : List Char}
  {tokens others early late : List Token} {failure another : Option Failure} {n : Nat}

/-- Texts that agree beyond a front part share that part and the character behind it. -/
theorem exists_append_of_take_eq (agree : (front ++ rest).take n = other.take n)
    (within : front.length < n) : ∃ left, other = front ++ left ∧ left.head? = rest.head? := by
  have shared : other.take front.length = front := calc
    other.take front.length = (other.take n).take front.length := by
      rw [List.take_take, Nat.min_eq_left (Nat.le_of_lt within)]
    _ = (front ++ rest).take front.length := by
      rw [← agree, List.take_take, Nat.min_eq_left (Nat.le_of_lt within)]
    _ = front := List.take_left
  have next : (other.drop front.length).head? = rest.head? := calc
    (other.drop front.length).head? = (other.take n)[front.length]? := by
      rw [List.head?_drop, List.getElem?_take_of_lt within]
    _ = (front ++ rest)[front.length]? := by
      rw [← agree, List.getElem?_take_of_lt within]
    _ = rest.head? := by
      rw [List.getElem?_append_right (Nat.le_refl _), Nat.sub_self, List.head?_eq_getElem?]
  have whole := (List.take_append_drop front.length other).symm
  rw [shared] at whole
  exact ⟨other.drop front.length, whole, next⟩

/-- Tokens that end within the shared part are read from the other text too. -/
theorem Scans.prefix_of_agree (scans : Scans start chars (early ++ late) failure)
    (scans' : Scans start other others another) (agree : chars.take n = other.take n)
    (within : ∀ token ∈ early, token.finish.offset < start.offset + n) : early <+: others := by
  cases ends : early.getLast? with
  | none =>
    rw [List.getLast?_eq_none_iff] at ends
    exact ends ▸ List.nil_prefix
  | some last =>
    obtain ⟨front, rest, rfl, finish, closed, before, _⟩ := scans.cut ends
    have inside : front.length < n := by
      have := within last (List.mem_of_getLast? ends)
      rw [finish, Location.past_offset] at this
      omega
    -- The other text goes on with the same character, which did not make the last token longer.
    obtain ⟨left, rfl, same⟩ := exists_append_of_take_eq agree inside
    obtain ⟨more, ending, behind⟩ := scans_total (start.past front) left
    have apart : ¬ Fused early (start.past front).offset left := by
      rintro ⟨last', ends', c, head, _, longer⟩
      obtain rfl : last = last' := Option.some.inj (ends.symm.trans ends')
      exact closed c (same ▸ head) longer
    have joined := before.append behind apart
    obtain ⟨rfl, _⟩ := joined.unique scans'
    exact List.prefix_append early more

theorem Scans.finish_ordered (scans : Scans start chars tokens failure) :
    tokens.Pairwise fun first second => first.finish.offset < second.finish.offset := by
  apply scans.ordered.imp_of_mem
  intro first second _ member apart
  exact Nat.lt_of_le_of_lt apart (scans.filled member)

/-- Tokens end one after another, so those that end early come first. -/
theorem filter_prefix_of_ordered (limit : Nat)
    (ordered : tokens.Pairwise fun first second => first.finish.offset < second.finish.offset) :
    tokens.filter (fun token => token.finish.offset < limit) <+: tokens := by
  induction ordered with
  | nil => exact List.nil_prefix
  | @cons token tokens later _ ih =>
    by_cases before : token.finish.offset < limit
    · rw [List.filter_cons_of_pos (by simpa using before)]
      exact List.cons_prefix_cons.mpr ⟨rfl, ih⟩
    · have none : (token :: tokens).filter (fun token => token.finish.offset < limit) = [] := by
        rw [List.filter_eq_nil_iff]
        intro other member
        rcases List.mem_cons.mp member with rfl | behind
        · simpa using before
        · have := later other behind
          simp only [decide_eq_true_eq]
          omega
      exact none ▸ List.nil_prefix

theorem Scans.early_prefix (scans : Scans start chars tokens failure)
    (scans' : Scans start other others another) (agree : chars.take n = other.take n) :
    tokens.filter (fun token => token.finish.offset < start.offset + n) <+:
      others.filter (fun token => token.finish.offset < start.offset + n) := by
  obtain ⟨late, parts⟩ := filter_prefix_of_ordered (start.offset + n) scans.finish_ordered
  rw [← parts] at scans
  have shared := scans.prefix_of_agree scans' agree (by simp)
  have kept := shared.filter fun token => token.finish.offset < start.offset + n
  simpa only [List.filter_filter, Bool.and_self] using kept

/-- Up to a character that no lexeme begins with, everything has been scanned. -/
theorem Scans.before_unexpected {c : Char}
    (scans : Scans start chars tokens (some ⟨place, .unexpectedCharacter c⟩)) :
    ∃ front rest, chars = front ++ c :: rest ∧ place = start.past front ∧ ¬ Legal c ∧
      Scans start front tokens none := by
  generalize failed : some (⟨place, .unexpectedCharacter c⟩ : Failure) = failure at scans
  induction scans with
  | blank => cases failed
  | @token start gap rest lexeme tokens failure blank formed closed _ ih =>
    obtain ⟨front, left, rfl, rfl, illegal, before⟩ := ih failed
    refine ⟨gap ++ (lexeme.written ++ front), left, by simp, ?_, illegal, ?_⟩
    · rw [Token.written_finish_past]
    · exact .token blank formed closed.left before
  | @unexpected start gap rest d blank illegal =>
    cases failed
    exact ⟨gap, rest, rfl, rfl, illegal, .blank blank⟩
  | unterminated => cases failed

theorem Scans.unexpected_of_agree {c : Char}
    (scans : Scans start chars tokens (some ⟨place, .unexpectedCharacter c⟩))
    (agree : chars.take n = other.take n) (within : place.offset < start.offset + n) :
    Scans start other tokens (some ⟨place, .unexpectedCharacter c⟩) := by
  obtain ⟨front, rest, rfl, rfl, illegal, before⟩ := scans.before_unexpected
  have inside : front.length < n := by
    rw [Location.past_offset] at within
    omega
  obtain ⟨left, rfl, same⟩ := exists_append_of_take_eq agree inside
  obtain ⟨more, rfl⟩ := List.head?_eq_some_iff.mp same
  have stops : Scans (start.past front) (c :: more) []
      (some ⟨start.past front, .unexpectedCharacter c⟩) := .unexpected blank_nil illegal
  have apart : ¬ Fused tokens (start.past front).offset (c :: more) := by
    rintro ⟨last, _, d, head, _, longer⟩
    obtain rfl : c = d := Option.some.inj head
    exact illegal (.inr longer.opens)
  have joined := before.append stops apart
  rwa [List.append_nil] at joined

/-- One character behind a token settles it, and one that is unexpected settles the scan. -/
theorem scan_settled (first second : String) (n : Nat)
    (agree : first.toList.take n = second.toList.take n) :
    (scan first).tokens.filter (fun token => token.finish.offset < n) =
      (scan second).tokens.filter (fun token => token.finish.offset < n) ∧
    ∀ place c, (scan first).failure = some ⟨place, .unexpectedCharacter c⟩ → place.offset < n →
      (scan second).tokens = (scan first).tokens ∧
      (scan second).failure = (scan first).failure := by
  have scans := scan_scans first
  have scans' := scan_scans second
  have zero : Location.start.offset + n = n := Nat.zero_add n
  constructor
  · have forth := scans.early_prefix scans' agree
    have back := scans'.early_prefix scans agree.symm
    rw [zero] at forth back
    exact forth.eq_of_length_le back.length_le
  · intro place c failed within
    rw [failed] at scans
    have settled := scans.unexpected_of_agree agree (by rwa [zero])
    rw [failed]
    exact scans'.unique settled

/-- Behind the unexpected character one text ends and the other opens a string. -/
theorem scan_settled_at_hash :
    "a\n<=#".toList.take 5 = "a\n<=#\"b".toList.take 5 ∧
    (scan "a\n<=#").tokens.filter (fun token => token.finish.offset < 5) =
      (scan "a\n<=#\"b").tokens.filter (fun token => token.finish.offset < 5) ∧
    (scan "a\n<=#").failure = some ⟨⟨4, 1, 2⟩, .unexpectedCharacter '#'⟩ ∧
    (scan "a\n<=#\"b").tokens = (scan "a\n<=#").tokens ∧
    (scan "a\n<=#\"b").failure = (scan "a\n<=#").failure := by
  have agree : "a\n<=#".toList.take 5 = "a\n<=#\"b".toList.take 5 := by decide
  have failed : (scan "a\n<=#").failure = some ⟨⟨4, 1, 2⟩, .unexpectedCharacter '#'⟩ := by
    decide +kernel
  obtain ⟨early, settled⟩ := scan_settled "a\n<=#" "a\n<=#\"b" 5 agree
  exact ⟨agree, early, failed, settled _ _ failed (by decide)⟩

end TokenScan
