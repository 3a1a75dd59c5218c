import TokenScan.Proofs.Scanning

/-! Whether and where a scan fails, told from the quotes of the text and its characters alone.
What was read before the failure has its quotes paired, so counting the quotes in front of a
place says whether it lies in a string. -/
namespace TokenScan

/-- An even number of quotes stands before the place. -/
def Outside (chars : List Char) (i : Nat) : Prop := (chars.take i).count '"' % 2 = 0

def AllLegal (chars : List Char) : Prop :=
  ∀ i c, Outside chars i → chars[i]? = some c → Legal c

structure FirstIllegal (chars : List Char) (n : Nat) (c : Char) : Prop where
  here : chars[n]? = some c
  outside : Outside chars n
  illegal : ¬ Legal c
  least : ∀ i d, i < n → Outside chars i → chars[i]? = some d → Legal d

structure LastQuote (chars : List Char) (n : Nat) : Prop where
  here : chars[n]? = some '"'
  last : ∀ i, n < i → chars[i]? ≠ some '"'

def Scan.verdict (result : Scan) : Option (Nat × Reason) :=
  result.failure.map fun failure => (failure.location.offset, failure.reason)

def Criterion (chars : List Char) : Option (Nat × Reason) → Prop
  | none => AllLegal chars ∧ chars.count '"' % 2 = 0
  | some (n, .unexpectedCharacter c) => FirstIllegal chars n c
  | some (n, .unterminatedString) => AllLegal chars ∧ chars.count '"' % 2 = 1 ∧ LastQuote chars n

theorem FirstIllegal.not_allLegal {chars : List Char} {n : Nat} {c : Char}
    (first : FirstIllegal chars n c) : ¬ AllLegal chars :=
  fun legal => first.illegal (legal n c first.outside first.here)

theorem FirstIllegal.unique {chars : List Char} {n m : Nat} {c d : Char}
    (one : FirstIllegal chars n c) (other : FirstIllegal chars m d) : n = m ∧ c = d := by
  have same : n = m := by
    rcases Nat.lt_trichotomy n m with before | same | behind
    · exact absurd (other.least n c before one.outside one.here) one.illegal
    · exact same
    · exact absurd (one.least m d behind other.outside other.here) other.illegal
  subst same
  exact ⟨rfl, Option.some.inj (one.here.symm.trans other.here)⟩

theorem LastQuote.unique {chars : List Char} {n m : Nat}
    (one : LastQuote chars n) (other : LastQuote chars m) : n = m := by
  rcases Nat.lt_trichotomy n m with before | same | behind
  · exact absurd other.here (one.last m before)
  · exact same
  · exact absurd one.here (other.last n behind)

theorem Criterion.unique {chars : List Char} {one other : Option (Nat × Reason)}
    (first : Criterion chars one) (second : Criterion chars other) : one = other := by
  rcases one with _ | ⟨n, _ | _⟩ <;> rcases other with _ | ⟨m, _ | _⟩
  · rfl
  · exact absurd first.1 second.not_allLegal
  · have even := first.2
    have odd := second.2.1
    omega
  · exact absurd second.1 first.not_allLegal
  · obtain ⟨rfl, rfl⟩ := FirstIllegal.unique first second
    rfl
  · exact absurd second.1 first.not_allLegal
  · have odd := first.2.1
    have even := second.2
    omega
  · exact absurd first.1 second.not_allLegal
  · rw [first.2.2.unique second.2.2]

/-- The quotes pair up, and outside of them nothing is illegal. -/
structure Paired (chars : List Char) : Prop where
  even : chars.count '"' % 2 = 0
  legal : AllLegal chars

theorem outside_append_left {before : List Char} {i : Nat} (inside : i ≤ before.length)
    (behind : List Char) : Outside (before ++ behind) i ↔ Outside before i := by
  rw [Outside, Outside, List.take_append_of_le_length inside]

theorem Paired.outside_append_iff {before : List Char} (paired : Paired before)
    (behind : List Char) (i : Nat) :
    Outside (before ++ behind) (before.length + i) ↔ Outside behind i := by
  have even := paired.even
  rw [Outside, Outside, List.take_length_add_append, List.count_append]
  omega

/-- Behind a paired part the rest can be judged by itself. -/
theorem Paired.append_cases {before behind : List Char} (paired : Paired before) {i : Nat} {c : Char}
    (outside : Outside (before ++ behind) i) (here : (before ++ behind)[i]? = some c) :
    Legal c ∨ ∃ k, i = before.length + k ∧ Outside behind k ∧ behind[k]? = some c := by
  by_cases front : i < before.length
  · rw [List.getElem?_append_left front] at here
    exact .inl (paired.legal i c ((outside_append_left (Nat.le_of_lt front) behind).mp outside) here)
  · obtain ⟨k, rfl⟩ := Nat.exists_eq_add_of_le (Nat.le_of_not_lt front)
    rw [List.getElem?_append_right (Nat.le_add_right _ _), Nat.add_sub_cancel_left] at here
    exact .inr ⟨k, rfl, (paired.outside_append_iff behind k).mp outside, here⟩

theorem Paired.append {before behind : List Char} (first : Paired before) (second : Paired behind) :
    Paired (before ++ behind) := by
  constructor
  · have one := first.even
    have other := second.even
    rw [List.count_append]
    omega
  · intro i c outside here
    rcases first.append_cases outside here with legal | ⟨k, _, outside, here⟩
    · exact legal
    · exact second.legal k c outside here

theorem paired_of_plain {chars : List Char} (legal : ∀ c ∈ chars, Legal c) (plain : '"' ∉ chars) :
    Paired chars :=
  ⟨by rw [List.count_eq_zero.mpr plain], fun _ c _ here => legal c (List.mem_of_getElem? here)⟩

theorem Blank.paired {gap : List Char} (blank : Blank gap) : Paired gap := by
  apply paired_of_plain
  · exact fun c member => .inl (blank c member)
  · intro quote
    exact absurd (blank _ quote) (by decide)

theorem not_outside_of_open {chars : List Char} {k : Nat} (unclosed : '"' ∉ chars.take k) :
    ¬ Outside ('"' :: chars) (k + 1) := by
  intro outside
  rw [Outside, List.take_succ_cons, List.count_cons_self, List.count_eq_zero.mpr unclosed] at outside
  omega

/-- Inside a string nothing counts but its first quote. -/
theorem paired_of_quoted {inside : List Char} (plain : '"' ∉ inside) :
    Paired ('"' :: (inside ++ ['"'])) := by
  have none : inside.count '"' = 0 := List.count_eq_zero.mpr plain
  constructor
  · rw [List.count_cons_self, List.count_append, none]
    rfl
  · intro i c outside here
    cases i with
    | zero => exact Option.some.inj here ▸ .inr (.inr (.inl rfl))
    | succ k =>
      have before : k ≤ inside.length := by
        obtain ⟨bound, _⟩ := List.getElem?_eq_some_iff.mp here
        simp only [List.length_cons, List.length_append, List.length_nil] at bound
        omega
      have left : '"' ∉ (inside ++ ['"']).take k := by
        rw [List.take_append_of_le_length before]
        exact fun member => plain (List.mem_of_mem_take member)
      exact absurd outside (not_outside_of_open left)

theorem paired_of_alphanum {chars : List Char} (letters : ∀ c ∈ chars, c.isAlphanum = true) :
    Paired chars := by
  apply paired_of_plain
  · exact fun c member => .inr (.inl (letters c member))
  · intro quote
    exact absurd (letters _ quote) (by decide)

theorem paired_of_signs {chars : List Char} (signs : ∀ c ∈ chars, c ∈ operatorSigns) :
    Paired chars := by
  apply paired_of_plain
  · exact fun c member => .inr (.inr (.inr (.inl (signs c member))))
  · intro quote
    have sign : '"' ∈ operatorSigns := signs _ quote
    simp [operatorSigns] at sign

theorem paired_singleton (c : Char) (legal : Legal c) (plain : '"' ≠ c) : Paired [c] := by
  apply paired_of_plain
  · intro d member
    rwa [List.mem_singleton.mp member]
  · exact fun quote => plain (List.mem_singleton.mp quote)

theorem Lexeme.WellFormed.paired {lexeme : Lexeme} (formed : lexeme.WellFormed) :
    Paired lexeme.written := by
  cases formed with
  | number _ digits =>
    apply paired_of_alphanum
    intro c member
    exact isAlphanum_of_isDigit (digits c member)
  | identifier word _ => exact paired_of_alphanum word.alphanum
  | keyword keyword => exact paired_of_alphanum (spelling_isWord keyword).alphanum
  | stringLiteral inside => exact paired_of_quoted inside
  | operator listed => exact paired_of_signs (operator_signs listed)
  | parenthesis listed =>
    rcases listed with rfl | rfl
    · exact paired_singleton '(' (by simp [Legal, Opens]) (by simp)
    · exact paired_singleton ')' (by simp [Legal, Opens]) (by simp)
  | statementEnd => exact paired_singleton ';' (by simp [Legal, Opens]) (by simp)

/-- A scan ends at the end of the text, or at a place that it can neither read nor skip. -/
inductive EndsAt (place : Location) : List Char → Option Failure → Prop where
  | finished : EndsAt place [] none
  | unexpected {c : Char} {rest : List Char} : ¬ Legal c →
      EndsAt place (c :: rest) (some ⟨place, .unexpectedCharacter c⟩)
  | unterminated {inside : List Char} : '"' ∉ inside →
      EndsAt place ('"' :: inside) (some ⟨place, .unterminatedString⟩)

variable {start : Location} {chars : List Char} {tokens : List Token} {failure : Option Failure}

theorem Scans.ending (scans : Scans start chars tokens failure) :
    ∃ front rest, chars = front ++ rest ∧ Paired front ∧ EndsAt (start.past front) rest failure := by
  induction scans with
  | @blank start gap blank => exact ⟨gap, [], by simp, blank.paired, .finished⟩
  | @token start gap rest lexeme tokens failure blank formed _ _ ih =>
    obtain ⟨front, left, rfl, paired, ends⟩ := ih
    refine ⟨gap ++ (lexeme.written ++ front), left, by simp, ?_, ?_⟩
    · exact blank.paired.append (formed.paired.append paired)
    · rw [Location.past_append, Location.past_append]
      exact ends
  | @unexpected start gap rest c blank illegal =>
    exact ⟨gap, c :: rest, rfl, blank.paired, .unexpected illegal⟩
  | @unterminated start gap inside blank unclosed =>
    exact ⟨gap, '"' :: inside, rfl, blank.paired, .unterminated unclosed⟩

theorem Paired.firstIllegal {front rest : List Char} {c : Char} (paired : Paired front)
    (illegal : ¬ Legal c) : FirstIllegal (front ++ c :: rest) front.length c := by
  constructor
  · simp
  · exact (paired.outside_append_iff (c :: rest) 0).mpr rfl
  · exact illegal
  · intro i d before outside here
    rcases paired.append_cases outside here with legal | ⟨k, rfl, _⟩
    · exact legal
    · omega

/-- Behind an opening quote that is never closed everything lies inside. -/
theorem Paired.allLegal_of_unclosed {front inside : List Char} (paired : Paired front)
    (unclosed : '"' ∉ inside) : AllLegal (front ++ '"' :: inside) := by
  intro i c outside here
  rcases paired.append_cases outside here with legal | ⟨k, rfl, outside, here⟩
  · exact legal
  · cases k with
    | zero => exact Option.some.inj here ▸ .inr (.inr (.inl rfl))
    | succ k =>
      have left : '"' ∉ inside.take k := fun member => unclosed (List.mem_of_mem_take member)
      exact absurd outside (not_outside_of_open left)

theorem lastQuote_of_unclosed {front inside : List Char} (unclosed : '"' ∉ inside) :
    LastQuote (front ++ '"' :: inside) front.length := by
  constructor
  · simp
  · intro i behind here
    obtain ⟨k, rfl⟩ := Nat.exists_eq_add_of_lt behind
    rw [List.getElem?_append_right (by omega),
      show front.length + k + 1 - front.length = k + 1 from by omega, List.getElem?_cons_succ] at here
    exact unclosed (List.mem_of_getElem? here)

theorem scan_criterion (source : String) : Criterion source.toList (scan source).verdict := by
  obtain ⟨front, rest, parts, paired, ends⟩ := (scan_scans source).ending
  have place : (Location.start.past front).offset = front.length := by
    rw [Location.past_offset]
    exact Nat.zero_add _
  generalize failed : (scan source).failure = failure at ends
  rw [Scan.verdict, failed, parts]
  cases ends with
  | finished =>
    rw [List.append_nil]
    exact ⟨paired.legal, paired.even⟩
  | unexpected illegal =>
    simp only [Option.map_some, place]
    exact paired.firstIllegal illegal
  | @unterminated inside unclosed =>
    simp only [Option.map_some, place]
    refine ⟨paired.allLegal_of_unclosed unclosed, ?_, lastQuote_of_unclosed unclosed⟩
    have even := paired.even
    rw [List.count_append, List.count_cons_self, List.count_eq_zero.mpr unclosed]
    omega

theorem scan_verdict_iff (source : String) (verdict : Option (Nat × Reason)) :
    (scan source).verdict = verdict ↔ Criterion source.toList verdict := by
  constructor
  · rintro rfl
    exact scan_criterion source
  · exact (scan_criterion source).unique

/-- Exactly when a scan fails, where, and why; `tokenize` fails with it. -/
theorem failure_iff_quotes (source : String) :
    (∀ n c, (scan source).verdict = some (n, .unexpectedCharacter c) ↔
      FirstIllegal source.toList n c) ∧
    (∀ n, (scan source).verdict = some (n, .unterminatedString) ↔
      AllLegal source.toList ∧ source.toList.count '"' % 2 = 1 ∧ LastQuote source.toList n) ∧
    ((scan source).verdict = none ↔
      AllLegal source.toList ∧ source.toList.count '"' % 2 = 0) ∧
    (∀ failure, tokenize source = .error failure ↔ (scan source).failure = some failure) ∧
    ((∃ tokens, tokenize source = .ok tokens) ↔ (scan source).failure = none) := by
  refine ⟨fun n c => scan_verdict_iff source _, fun n => scan_verdict_iff source _,
    scan_verdict_iff source none, ?_, ?_⟩
  all_goals
    rw [tokenize, Scanner.gather_eq, ← scan]
    cases (scan source).failure <;> simp

end TokenScan
