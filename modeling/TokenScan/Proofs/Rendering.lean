import TokenScan.Proofs.Scanning

/-! Lexemes written one after another, with blanks around them as one likes, and what a scan
makes of that. It gives the same lexemes back exactly when blanks keep those apart that would
otherwise run together. -/
namespace TokenScan

/-- Written without a blank between them, the two would not be read as these two. -/
def Lexeme.Fuses (first second : Lexeme) : Prop :=
  match first.kind with
  | .identifier | .keyword =>
    second.kind = .identifier ∨ second.kind = .keyword ∨ second.kind = .number
  | .number => second.kind = .number
  | .operator =>
    first.text ∈ openOperators ∧ second.kind = .operator ∧ second.text.toList.head? = some '='
  | _ => False

instance (first second : Lexeme) : Decidable (first.Fuses second) := by
  obtain ⟨kind, text⟩ := first
  unfold Lexeme.Fuses
  cases kind <;> infer_instance

structure Piece where
  gap : String
  lexeme : Lexeme
  blank : Text.allBlank gap = true
  formed : lexeme.WellFormed

/-- A text by its pieces, and the blanks after the last one. -/
structure Layout where
  pieces : List Piece
  tail : String
  blank : Text.allBlank tail = true

def render (tail : String) : List Piece → List Char
  | [] => tail.toList
  | piece :: rest => piece.gap.toList ++ (piece.lexeme.written ++ render tail rest)

def Layout.source (layout : Layout) : String := String.ofList (render layout.tail layout.pieces)

/-- No two neighbours that fuse stand side by side with nothing between them. -/
def Separated : List Piece → Prop
  | [] => True
  | first :: rest =>
    (∀ second, rest.head? = some second → second.gap = "" → ¬ first.lexeme.Fuses second.lexeme) ∧
    Separated rest

theorem Kind.Starts.isAlphanum_iff {kind : Kind} {c : Char} (starts : kind.Starts c) :
    c.isAlphanum = true ↔ kind = .identifier ∨ kind = .keyword ∨ kind = .number := by
  cases kind
  case number => simp [isAlphanum_of_isDigit starts]
  case identifier => simp [isAlphanum_of_isAlpha starts]
  case keyword => simp [isAlphanum_of_isAlpha starts]
  case stringLiteral =>
    cases starts
    simp
  case operator => simp [sign_not_isAlphanum c starts]
  case parenthesis => rcases starts with rfl | rfl <;> simp
  case statementEnd =>
    cases starts
    simp
  case endOfInput => exact starts.elim

theorem Kind.Starts.isDigit_iff {kind : Kind} {c : Char} (starts : kind.Starts c) :
    c.isDigit = true ↔ kind = .number := by
  constructor
  · intro digit
    have letter : c.isAlphanum = true := isAlphanum_of_isDigit digit
    rcases starts.isAlphanum_iff.mp letter with rfl | rfl | rfl
    · exact absurd digit (by simp [not_isDigit_of_isAlpha starts])
    · exact absurd digit (by simp [not_isDigit_of_isAlpha starts])
    · rfl
  · rintro rfl
    exact starts

theorem Kind.Starts.operator_of_equals {kind : Kind} (starts : kind.Starts '=') : kind = .operator := by
  cases kind
  case operator => rfl
  case parenthesis => rcases starts with sign | sign <;> simp at sign
  all_goals exact absurd starts (by simp [Kind.Starts])

/-- Two lexemes fuse exactly when the second begins with what makes the first one longer. -/
theorem Lexeme.extends_iff_fuses (first : Lexeme) {second : Lexeme} {c : Char} {more : List Char}
    (written : second.written = c :: more) (starts : second.kind.Starts c) :
    first.Extends c ↔ first.Fuses second := by
  have equals : c = '=' ↔ second.kind = .operator ∧ second.text.toList.head? = some '=' := by
    constructor
    · rintro rfl
      have operator := starts.operator_of_equals
      simp only [Lexeme.written, operator] at written
      exact ⟨operator, by rw [written]; rfl⟩
    · rintro ⟨operator, head⟩
      simp only [Lexeme.written, operator] at written
      rw [written] at head
      exact Option.some.inj head
  unfold Lexeme.Extends Lexeme.Fuses
  cases first.kind
  case number => exact starts.isDigit_iff
  case identifier => exact starts.isAlphanum_iff
  case keyword => exact starts.isAlphanum_iff
  case operator => rw [equals]
  all_goals exact Iff.rfl

/-- Blanks at the front of two equal texts are the same if both go on with a lexeme. -/
theorem blank_append_inj {gap other rest left : List Char} {first second : Lexeme}
    (blank : Blank gap) (blank' : Blank other) (formed : first.WellFormed) (formed' : second.WellFormed)
    (same : gap ++ (first.written ++ rest) = other ++ (second.written ++ left)) :
    gap = other ∧ first.written ++ rest = second.written ++ left := by
  have front := takeWhile_blank blank (formed.stops_blanks rest)
  have back := takeWhile_blank blank' (formed'.stops_blanks left)
  rw [same] at front
  exact ⟨front.1.symm.trans back.1, front.2.symm.trans back.2⟩

theorem blank_of_allBlank {text : String} (blank : Text.allBlank text = true) : Blank text.toList :=
  List.all_eq_true.mp blank

/-- What a lexeme needs behind it is asked of the next piece alone. -/
theorem closed_render_iff (lexeme : Lexeme) {tail : String} (blank : Text.allBlank tail = true)
    (pieces : List Piece) : lexeme.Closed (render tail pieces) ↔
      ∀ second, pieces.head? = some second → second.gap = "" → ¬ lexeme.Fuses second.lexeme := by
  cases pieces with
  | nil =>
    have closed : lexeme.Closed tail.toList := (blank_of_allBlank blank).closed lexeme
    simpa [render] using closed
  | cons second rest =>
    simp only [render, List.head?_cons, Option.some.injEq, forall_eq']
    cases gap : second.gap.toList with
    | nil =>
      obtain ⟨c, more, written, starts⟩ := second.formed.head_starts
      rw [written, List.nil_append, List.cons_append, Lexeme.closed_cons,
        lexeme.extends_iff_fuses written starts]
      simp [String.toList_inj.mp (gap.trans String.toList_empty.symm)]
    | cons c more =>
      have apart : second.gap ≠ "" := by
        rintro empty
        simp [empty] at gap
      have blanks := blank_of_allBlank second.blank
      rw [gap] at blanks
      have closed : lexeme.Closed (c :: (more ++ (second.lexeme.written ++ render tail rest))) :=
        Lexeme.closed_of_blank (blanks c List.mem_cons_self) _
      simpa [apart] using closed

theorem scans_of_separated {tail : String} (blank : Text.allBlank tail = true)
    {pieces : List Piece} (separated : Separated pieces) (start : Location) :
    ∃ tokens, Scans start (render tail pieces) tokens none ∧
      tokens.map Token.toLexeme = pieces.map Piece.lexeme := by
  induction pieces generalizing start with
  | nil => exact ⟨[], .blank (blank_of_allBlank blank), rfl⟩
  | cons piece rest ih =>
    obtain ⟨apart, others⟩ := separated
    have gap := blank_of_allBlank piece.blank
    have closed := (closed_render_iff piece.lexeme blank rest).mpr apart
    obtain ⟨tokens, scans, same⟩ :=
      ih others (Token.written piece.lexeme (start.past piece.gap.toList)).finish
    exact ⟨_, .token gap piece.formed closed scans, by simp [same]⟩

theorem separated_of_scans {tail : String} (blank : Text.allBlank tail = true)
    {pieces : List Piece} {start : Location} {tokens : List Token}
    (scans : Scans start (render tail pieces) tokens none)
    (same : tokens.map Token.toLexeme = pieces.map Piece.lexeme) : Separated pieces := by
  induction pieces generalizing start tokens with
  | nil => trivial
  | cons piece rest ih =>
    generalize text : render tail (piece :: rest) = chars at scans
    cases scans with
    | blank => simp at same
    | @token _ gap left lexeme tokens _ blanks formed closed others =>
      simp only [List.map_cons, Token.written_toLexeme, List.cons.injEq] at same
      obtain ⟨rfl, same⟩ := same
      have split := blank_append_inj (blank_of_allBlank piece.blank) blanks piece.formed formed text
      have left_eq : render tail rest = left := List.append_cancel_left split.2
      subst left_eq
      exact ⟨(closed_render_iff piece.lexeme blank rest).mp closed, ih others same⟩

/-- Lexemes come back from the text they are written in exactly when no two of them fuse. -/
theorem scan_source_iff_separated (layout : Layout) :
    ((scan layout.source).failure = none ∧
      (scan layout.source).tokens.map Token.toLexeme = layout.pieces.map Piece.lexeme) ↔
    Separated layout.pieces := by
  have chars : layout.source.toList = render layout.tail layout.pieces := String.toList_ofList
  constructor
  · rintro ⟨finished, same⟩
    have scans := scan_scans layout.source
    rw [chars, finished] at scans
    exact separated_of_scans layout.blank scans same
  · intro separated
    obtain ⟨tokens, scans, same⟩ := scans_of_separated layout.blank separated .start
    rw [← chars] at scans
    obtain ⟨found, finished⟩ := scans.scan_eq
    exact ⟨finished, by rw [found, same]⟩

/-- A number may stand directly before a word. -/
example : ¬ Lexeme.Fuses ⟨.number, "12"⟩ ⟨.identifier, "x"⟩ := by decide

end TokenScan
