import TokenScan.Listing
import TokenScan.Proofs.Labels
import TokenScan.Proofs.Lines

/-! The plain listing is one line for each token, and a line tells its token: the kind stands before
the first comma, the location behind the last blank, and the text is all that is left between,
whatever it imitates. Texts are shown on one line, so no line is broken up. -/
namespace TokenScan

namespace Text

/-- The characters that would break up a line or a column. -/
def breaks : List Char := ['\n', '\r', '\t']

theorem mem_breaks_iff {c : Char} : c ∈ breaks ↔ c = '\n' ∨ c = '\r' ∨ c = '\t' := by
  simp [breaks]

def Inline (text : String) : Prop := ∀ c ∈ text.toList, c ∉ breaks

instance (text : String) : Decidable (Inline text) :=
  decidable_of_iff (text.toList.all fun c => !breaks.contains c) (by simp [Inline])

/-- The rows of an output, each ended by its only line feed. -/
structure Rows (output : String) (rows : List String) : Prop where
  joined : output = String.join (rows.map (· ++ "\n"))
  whole : ∀ row ∈ rows, '\n' ∉ row.toList
  feeds : output.toList.count '\n' = rows.length
  plain : '\r' ∉ output.toList ∧ '\t' ∉ output.toList

@[simp] theorem inline_append (first second : String) :
    Inline (first ++ second) ↔ Inline first ∧ Inline second := by
  simp only [Inline, String.toList_append, List.forall_mem_append]

theorem inline_flat (text : String) : Inline (flat text) := by
  obtain ⟨feed, turn, tab⟩ := not_mem_flat text
  intro c member broken
  rcases mem_breaks_iff.mp broken with rfl | rfl | rfl
  · exact feed member
  · exact turn member
  · exact tab member

theorem inline_toString (n : Nat) : Inline (toString n) := by
  intro c member broken
  have digit := (Json.numeral_toString n).digits c member
  rcases mem_breaks_iff.mp broken with rfl | rfl | rfl <;> cases digit

theorem inline_repeated {c : Char} (unbroken : c ∉ breaks) (count : Nat) :
    Inline (repeated c count) := by
  intro d member
  rw [repeated, String.toList_ofList] at member
  rwa [List.eq_of_mem_replicate member]

variable {rows : List String}

theorem mem_join_rows {c : Char} (member : c ∈ (String.join (rows.map (· ++ "\n"))).toList) :
    c = '\n' ∨ ∃ row ∈ rows, c ∈ row.toList := by
  simp only [String.toList_join, List.mem_flatMap, List.mem_map] at member
  obtain ⟨_, ⟨row, among, rfl⟩, inside⟩ := member
  rw [String.toList_append, List.mem_append] at inside
  rcases inside with within | feed
  · exact .inr ⟨row, among, within⟩
  · exact .inl (List.mem_singleton.mp feed)

theorem join_cons_toList (row : String) :
    (String.join ((row :: rows).map (· ++ "\n"))).toList =
      row.toList ++ '\n' :: (String.join (rows.map (· ++ "\n"))).toList := by
  simp

theorem rows_of_inline (inline : ∀ row ∈ rows, Inline row) :
    Rows (String.join (rows.map (· ++ "\n"))) rows := by
  have plain (c : Char) (broken : c ∈ breaks) (other : c ≠ '\n') :
      c ∉ (String.join (rows.map (· ++ "\n"))).toList := by
    intro member
    rcases mem_join_rows member with feed | ⟨row, among, inside⟩
    · exact other feed
    · exact inline row among c inside broken
  have whole (row : String) (among : row ∈ rows) : '\n' ∉ row.toList :=
    fun feed => inline row among '\n' feed (by decide)
  refine ⟨rfl, whole, ?_, plain _ (by decide) (by decide), plain _ (by decide) (by decide)⟩
  clear inline plain
  induction rows with
  | nil => rfl
  | cons row rows ih =>
    obtain ⟨first, others⟩ := List.forall_mem_cons.mp whole
    rw [join_cons_toList, List.count_append, List.count_cons_self, List.count_eq_zero.mpr first,
      ih others, List.length_cons, Nat.zero_add]

/-- The lines of the output are its rows: no row ends in a carriage return, which would be lost. -/
theorem Rows.lines_eq {output : String} (written : Rows output rows) :
    lines output.toList = rows.map String.toList := by
  obtain ⟨rfl, whole, -, returns, -⟩ := written
  induction rows with
  | nil => rfl
  | cons row rows ih =>
    obtain ⟨first, others⟩ := List.forall_mem_cons.mp whole
    rw [join_cons_toList, List.mem_append, not_or] at returns
    have kept : row.toList.getLast? ≠ some '\r' :=
      fun last => returns.1 (List.mem_of_getLast? last)
    rw [join_cons_toList, lines_append_feed first kept, List.map_cons,
      ih others fun member => returns.2 (List.mem_cons_of_mem _ member)]

theorem Rows.unique {output : String} {others : List String} (first : Rows output rows)
    (second : Rows output others) : rows = others := by
  apply (List.map_inj_right fun _ _ => String.toList_inj.mp).mp
  rw [← first.lines_eq, second.lines_eq]

end Text

theorem Kind.inline_name (kind : Kind) : Text.Inline kind.name := by
  cases kind <;> decide

theorem Location.inline_label (location : Location) : Text.Inline location.label := by
  have colon : Text.Inline ":" := by decide
  simp only [label, Text.inline_append]
  exact ⟨⟨Text.inline_toString _, colon⟩, Text.inline_toString _⟩

namespace Listing

variable {locations : Bool} {first second : Token} {tokens others : List Token}

/-- The line of a token. -/
def plainRow (locations : Bool) (token : Token) : String :=
  kindHeading ++ ": " ++ token.kind.name ++ ", " ++ valueHeading ++ ": " ++ Text.flat token.text ++
    if locations then ", " ++ locationHeading ++ ": " ++ token.start.label else ""

/-- What the line of a token tells: the kind, the text as it is shown, and with locations the line
and the column that it starts at. -/
def told (locations : Bool) (token : Token) : Kind × String × Option (Nat × Nat) :=
  (token.kind, Text.flat token.text,
    if locations then some (token.start.line, token.start.column) else none)

theorem inline_plainRow (locations : Bool) (token : Token) : Text.Inline (plainRow locations token) := by
  have named := token.kind.inline_name
  have said := Text.inline_flat token.text
  have placed := token.start.inline_label
  cases locations <;>
    simp +decide [plainRow, kindHeading, valueHeading, locationHeading, named, said, placed]

theorem plain_rows (locations : Bool) (tokens : List Token) :
    Text.Rows (plain locations tokens) (tokens.map (plainRow locations)) := by
  have joined : plain locations tokens =
      String.join ((tokens.map (plainRow locations)).map (· ++ "\n")) := by
    rw [List.map_map]
    rfl
  rw [joined]
  apply Text.rows_of_inline
  intro row member
  obtain ⟨token, _, rfl⟩ := List.mem_map.mp member
  exact inline_plainRow locations token

theorem plainRow_toList (locations : Bool) (token : Token) : (plainRow locations token).toList =
    "Token Type: ".toList ++ (token.kind.name.toList ++ ',' :: (" Value: ".toList ++
      ((Text.flat token.text).toList ++
        if locations then ", Location:".toList ++ ' ' :: token.start.label.toList else []))) := by
  have lead : "Token Type".toList ++ ": ".toList = "Token Type: ".toList := by decide
  cases locations <;>
    simp [plainRow, kindHeading, valueHeading, locationHeading, ← lead]

/-- The text may hold what looks like a location; the true one is found from the end of the line. -/
theorem told_of_plainRow (same : plainRow locations first = plainRow locations second) :
    told locations first = told locations second := by
  have rows := congrArg String.toList same
  rw [plainRow_toList, plainRow_toList] at rows
  obtain ⟨kinds, behind⟩ :=
    Kind.name_at_front (by decide) (by decide) (List.append_cancel_left rows)
  have values := List.append_cancel_left (List.cons.inj behind).2
  cases locations with
  | false =>
    simp only [Bool.false_eq_true, if_false, List.append_nil] at values
    rw [told, told, kinds, String.toList_inj.mp values]
    rfl
  | true =>
    simp only [if_true, ← List.append_assoc] at values
    obtain ⟨texts, _, line, column⟩ := Location.label_at_end (by decide) (by decide) values
    have texts := String.toList_inj.mp (List.append_cancel_right texts)
    rw [told, told, kinds, texts, line, column]

theorem plainRow_eq_iff :
    plainRow locations first = plainRow locations second ↔ told locations first = told locations second := by
  refine ⟨told_of_plainRow, ?_⟩
  intro same
  rw [told, told, Prod.mk.injEq, Prod.mk.injEq] at same
  obtain ⟨kinds, texts, places⟩ := same
  cases locations with
  | false => rw [plainRow, plainRow, kinds, texts, if_neg Bool.false_ne_true, if_neg Bool.false_ne_true]
  | true =>
    have labels : first.start.label = second.start.label :=
      Location.label_eq_iff.mpr (by simpa using places)
    rw [plainRow, plainRow, kinds, texts, labels]

theorem map_plainRow_eq_iff {token other : Option Token} :
    token.map (plainRow locations) = other.map (plainRow locations) ↔
      token.map (told locations) = other.map (told locations) := by
  cases token <;> cases other <;> simp [plainRow_eq_iff]

/-- The plain listing has one line for each token, ended by its only line feed. Any two lines, of one
listing or of two, are the same exactly if they tell the same of their tokens; so two listings are the
same exactly if they do throughout. -/
theorem plain_tells_tokens (locations : Bool) :
    (∀ tokens, ∃ rows, Text.Rows (plain locations tokens) rows ∧ rows.length = tokens.length ∧
      Text.lines (plain locations tokens).toList = rows.map String.toList) ∧
    (∀ (tokens others : List Token) (i j : Nat),
      (Text.lines (plain locations tokens).toList)[i]? =
          (Text.lines (plain locations others).toList)[j]? ↔
        tokens[i]?.map (told locations) = others[j]?.map (told locations)) ∧
    ∀ tokens others, plain locations tokens = plain locations others ↔
      tokens.map (told locations) = others.map (told locations) := by
  have lines (tokens : List Token) : Text.lines (plain locations tokens).toList =
      (tokens.map (plainRow locations)).map String.toList := (plain_rows locations tokens).lines_eq
  refine ⟨?_, ?_, ?_⟩
  · intro tokens
    exact ⟨_, plain_rows locations tokens, List.length_map _, lines tokens⟩
  · intro tokens others i j
    rw [lines, lines, ← map_plainRow_eq_iff]
    simp only [List.getElem?_map]
    exact Option.map_inj_right fun _ _ => String.toList_inj.mp
  · intro tokens others
    calc plain locations tokens = plain locations others
      _ ↔ tokens.map (plainRow locations) = others.map (plainRow locations) := by
        constructor
        · intro same
          have written := plain_rows locations others
          rw [← same] at written
          exact (plain_rows locations tokens).unique written
        · intro same
          rw [(plain_rows locations tokens).joined, same, ← (plain_rows locations others).joined]
      _ ↔ ∀ i : Nat, tokens[i]?.map (plainRow locations) = others[i]?.map (plainRow locations) := by
        simp only [List.ext_getElem?_iff, List.getElem?_map]
      _ ↔ tokens.map (told locations) = others.map (told locations) := by
        simp only [List.ext_getElem?_iff, List.getElem?_map, map_plainRow_eq_iff]

/-- The setting has to be known: a string can imitate the end of a line that has a location. -/
example : plain false [⟨⟨.stringLiteral, "a, Location: 1:1"⟩, .start, ⟨18, 0, 18⟩⟩] =
    plain true [⟨⟨.stringLiteral, "a"⟩, .start, ⟨3, 0, 3⟩⟩] := by
  decide +kernel

end Listing

end TokenScan
