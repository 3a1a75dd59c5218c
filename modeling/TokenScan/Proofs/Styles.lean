import TokenScan.Proofs.Diagnostics
import TokenScan.Proofs.Origins
import TokenScan.Report

/-! Styles taken out again. A terminal is told of styles by sequences of an escape character, a
bracket, numbers and an `m`; text that holds no escape character of its own is what remains when all
of them are removed from its coloured rendering. -/
namespace TokenScan

def escape : Char := '\x1b'

namespace Text

/-- Numbers in a sequence, and what separates them. -/
def isParameter (c : Char) : Bool := c.isDigit || c == ';'

/-- What follows the sequence that a text begins with, if it begins with one. -/
def behindSequence? : List Char → Option (List Char)
  | '\x1b' :: '[' :: rest =>
    match rest.dropWhile isParameter with
    | 'm' :: behind => some behind
    | _ => none
  | _ => none

theorem behindSequence?_shorter {chars behind : List Char}
    (found : behindSequence? chars = some behind) : behind.length < chars.length := by
  unfold behindSequence? at found
  split at found
  · rename_i rest
    split at found
    · rename_i left parts
      obtain rfl := Option.some.inj found
      have shorter := (List.dropWhile_sublist (l := rest) isParameter).length_le
      rw [parts] at shorter
      simp only [List.length_cons] at shorter ⊢
      omega
    · cases found
  · cases found

/-- From left to right; what remains is not looked at again. -/
def withoutSequences : List Char → List Char
  | [] => []
  | c :: rest =>
    match _ : behindSequence? (c :: rest) with
    | some behind => withoutSequences behind
    | none => c :: withoutSequences rest
termination_by chars => chars.length
decreasing_by
  · exact behindSequence?_shorter ‹_›
  · exact Nat.lt_succ_self _

def unstyled (text : String) : String := String.ofList (withoutSequences text.toList)

example : unstyled "\x1b[1;31merror\x1b[0m: \x1b[m\x1b[1\x1b[2m" = "error: \x1b[1" := by decide +kernel

theorem withoutSequences_cons {c : Char} (plain : c ≠ escape) (rest : List Char) :
    withoutSequences (c :: rest) = c :: withoutSequences rest := by
  have none : behindSequence? (c :: rest) = none := by
    unfold behindSequence?
    split
    · rename_i same
      exact absurd (List.cons.inj same).1 plain
    · rfl
  rw [withoutSequences]
  split
  · rename_i found
    rw [none] at found
    cases found
  · rfl

theorem withoutSequences_append {front : List Char} (plain : escape ∉ front) (rest : List Char) :
    withoutSequences (front ++ rest) = front ++ withoutSequences rest := by
  induction front with
  | nil => rfl
  | cons c front ih =>
    obtain ⟨first, others⟩ := not_or.mp (mt List.mem_cons.mpr plain)
    rw [List.cons_append, withoutSequences_cons (Ne.symm first), ih others, List.cons_append]

theorem withoutSequences_sequence (parameters : List Char)
    (numbers : parameters.all isParameter = true) (rest : List Char) :
    withoutSequences ('\x1b' :: '[' :: (parameters ++ 'm' :: rest)) = withoutSequences rest := by
  have found : behindSequence? ('\x1b' :: '[' :: (parameters ++ 'm' :: rest)) = some rest := by
    rw [behindSequence?, List.dropWhile_append_of_pos (List.all_eq_true.mp numbers)]
    rfl
  rw [withoutSequences]
  split
  · rename_i behind same
    rw [found] at same
    exact congrArg withoutSequences (Option.some.inj same).symm
  · rename_i none
    rw [found] at none
    cases none

/-- Without an escape character of its own. -/
def Bare (text : String) : Prop := escape ∉ text.toList

instance (text : String) : Decidable (Bare text) := by
  unfold Bare; infer_instance

@[simp] theorem bare_append (first second : String) :
    Bare (first ++ second) ↔ Bare first ∧ Bare second := by
  simp only [Bare, String.toList_append, List.mem_append, not_or]

@[simp] theorem bare_ofList (chars : List Char) : Bare (String.ofList chars) ↔ escape ∉ chars := by
  rw [Bare, String.toList_ofList]

@[simp] theorem bare_toString (text : String) : Bare (toString text) ↔ Bare text := Iff.rfl

theorem bare_join {texts : List String} (bare : ∀ text ∈ texts, Bare text) :
    Bare (String.join texts) := by
  simp only [Bare, String.toList_join, List.mem_flatMap, not_exists, not_and]
  exact bare

theorem bare_intercalate {separator : String} {texts : List String} (plain : Bare separator)
    (bare : ∀ text ∈ texts, Bare text) : Bare (separator.intercalate texts) := by
  induction texts with
  | nil => exact List.not_mem_nil
  | cons text texts ih =>
    have first := bare text List.mem_cons_self
    have others := ih fun other member => bare other (List.mem_cons_of_mem _ member)
    cases texts with
    | nil => simpa using first
    | cons next texts => simp [first, plain, others]

end Text

/-- Sequences that open styles are removed whole; that of headings is two. -/
theorem Style.withoutSequences_opening (style : Style) (rest : List Char) :
    Text.withoutSequences (style.opening.toList ++ rest) = Text.withoutSequences rest := by
  cases style
  case plain => rfl
  case bold => exact Text.withoutSequences_sequence ['1'] rfl rest
  case red => exact Text.withoutSequences_sequence ['3', '1'] rfl rest
  case redBold => exact Text.withoutSequences_sequence ['1', ';', '3', '1'] rfl rest
  case blueBold => exact Text.withoutSequences_sequence ['1', ';', '3', '4'] rfl rest
  case heading =>
    exact (Text.withoutSequences_sequence ['1'] rfl _).trans
      (Text.withoutSequences_sequence ['4'] rfl rest)

theorem withoutSequences_reset (rest : List Char) :
    Text.withoutSequences (reset ++ rest) = Text.withoutSequences rest :=
  Text.withoutSequences_sequence ['0'] rfl rest

def Styled.Bare (styled : Styled) : Prop := ∀ span ∈ styled, Text.Bare span.text

instance (styled : Styled) : Decidable styled.Bare := by
  unfold Styled.Bare; infer_instance

/-- Whatever follows, so that spans can be taken one by one. -/
theorem Span.withoutSequences_render {span : Span} (bare : Text.Bare span.text) (coloured : Bool)
    (rest : List Char) : Text.withoutSequences ((span.render coloured).toList ++ rest) =
      span.text.toList ++ Text.withoutSequences rest := by
  by_cases shown : (coloured && span.style != .plain) = true
  · rw [Span.render, if_pos shown, String.toList_ofList, reopened_eq_self _ _ bare,
      List.append_assoc, List.append_assoc, Style.withoutSequences_opening,
      Text.withoutSequences_append bare, withoutSequences_reset]
  · rw [Span.render, if_neg shown]
    exact Text.withoutSequences_append bare rest

namespace Styled

theorem withoutSequences_render {styled : Styled} (bare : styled.Bare) (coloured : Bool)
    (rest : List Char) : Text.withoutSequences ((styled.render coloured).toList ++ rest) =
      (styled.render false).toList ++ Text.withoutSequences rest := by
  induction styled with
  | nil => rfl
  | cons span styled ih =>
    have others := ih fun other member => bare other (List.mem_cons_of_mem _ member)
    rw [render_cons, render_cons, String.toList_append, String.toList_append, List.append_assoc,
      Span.withoutSequences_render (bare span List.mem_cons_self), others, List.append_assoc]
    rfl

theorem unstyled_render {styled : Styled} (bare : styled.Bare) (coloured : Bool) :
    Text.unstyled (styled.render coloured) = styled.render false := by
  have whole := withoutSequences_render bare coloured []
  rw [List.append_nil, Text.withoutSequences, List.append_nil] at whole
  rw [Text.unstyled, whole, String.ofList_toList]

/-- Only what is styled needs to be without escape characters, not the text behind it. -/
theorem unstyled_render_append {front : Styled} (bare : front.Bare) (coloured : Bool) (rest : String) :
    Text.unstyled (front.render coloured ++ rest) = Text.unstyled (front.render false ++ rest) := by
  rw [Text.unstyled, Text.unstyled, String.toList_append, String.toList_append,
    withoutSequences_render bare coloured, withoutSequences_render bare false]

@[simp] theorem bare_nil : Bare [] := List.forall_mem_nil _

@[simp] theorem bare_append (first second : Styled) :
    Bare (first ++ second) ↔ first.Bare ∧ second.Bare := List.forall_mem_append

@[simp] theorem bare_of (style : Style) (text : String) : (of style text).Bare ↔ Text.Bare text :=
  List.forall_mem_singleton

@[simp] theorem bare_cons (span : Span) (styled : Styled) :
    Bare (span :: styled) ↔ Text.Bare span.text ∧ styled.Bare := List.forall_mem_cons

end Styled

theorem escape_ne_digitChar (n : Nat) : escape ≠ Nat.digitChar n :=
  (Nat.digitChar_ne escape (by decide)).symm

theorem escape_not_mem_toDigits {base : Nat} (several : 1 < base) (n : Nat) :
    escape ∉ Nat.toDigits base n := by
  induction n using Nat.strongRecOn with
  | ind n ih =>
    rw [Nat.toDigits_eq_if several]
    split
    · simpa using escape_ne_digitChar n
    · have fewer : n / base < n := Nat.div_lt_self (by omega) several
      simpa using ⟨ih _ fewer, escape_ne_digitChar _⟩

@[simp] theorem Text.bare_repr (n : Nat) : Bare n.repr :=
  (bare_ofList _).mpr (escape_not_mem_toDigits (by decide) n)

@[simp] theorem Location.bare_label (location : Location) : Text.Bare location.label := by
  simp +decide [label]

theorem Text.bare_repeated {c : Char} (plain : c ≠ escape) (count : Nat) :
    Bare (repeated c count) := by
  rw [repeated, bare_ofList]
  intro member
  exact plain (List.eq_of_mem_replicate member).symm

@[simp] theorem Text.bare_spaces (count : Nat) : Bare (spaces count) :=
  bare_repeated (by decide) count

theorem Text.bare_of_mem_lines {text : String} (bare : Bare text) {line : List Char}
    (member : line ∈ lines text.toList) : escape ∉ line :=
  fun inside => bare (mem_of_mem_lines member inside)

namespace Diagnostic

/-- None of its texts has an escape character. -/
structure Bare (diagnostic : Diagnostic) : Prop where
  name : Text.Bare diagnostic.name
  source : Text.Bare diagnostic.source
  message : Text.Bare diagnostic.message
  hint : ∀ hint, diagnostic.hint = some hint → Text.Bare hint

@[simp] theorem bare_gutter (diagnostic : Diagnostic) (numbered : Bool) :
    (diagnostic.gutter numbered).Bare := by
  have number : Text.Bare diagnostic.lineNumber := Text.bare_repr _
  cases numbered with
  | true => simp +decide [gutter, number]
  | false => simp +decide [gutter]

theorem bare_shownLine (diagnostic : Diagnostic) (numbered : Bool) {line : List Char}
    (bare : escape ∉ line) : (diagnostic.shownLine numbered line).Bare := by
  simp +decide [shownLine, bare]

theorem bare_neighbour (diagnostic : Diagnostic) {line : Option (List Char)}
    (bare : ∀ chars, line = some chars → escape ∉ chars) :
    Styled.Bare (line.elim [] (diagnostic.shownLine false)) := by
  cases line with
  | none => exact Styled.bare_nil
  | some chars => exact diagnostic.bare_shownLine false (bare chars rfl)

theorem Bare.indicator {diagnostic : Diagnostic} (bare : diagnostic.Bare) :
    diagnostic.indicator.Bare := by
  have tildes : Text.Bare (Text.repeated '~' (diagnostic.range.length - 1)) :=
    Text.bare_repeated (by decide) _
  cases given : diagnostic.hint with
  | none => simp +decide [Diagnostic.indicator, tildes, given]
  | some hint => simp +decide [Diagnostic.indicator, tildes, given, bare.hint hint given]

theorem Bare.styled {diagnostic : Diagnostic} (bare : diagnostic.Bare) : diagnostic.styled.Bare := by
  have lines (k : Nat) (line : List Char)
      (found : (Text.lines diagnostic.source.toList)[k]? = some line) : escape ∉ line :=
    Text.bare_of_mem_lines bare.source (List.mem_of_getElem? found)
  have above : ∀ line, diagnostic.previousLine = some line → escape ∉ line := by
    intro line found
    obtain ⟨before, _, shown, _⟩ := previousLine_eq_some_iff.mp found
    exact lines before line shown
  have primary : escape ∉ diagnostic.primaryLine := by
    rw [primaryLine]
    cases found : (Text.lines diagnostic.source.toList)[diagnostic.range.start.line]? with
    | none => exact List.not_mem_nil
    | some line => exact lines _ line found
  have below : ∀ line, diagnostic.followingLine = some line → escape ∉ line := lines _
  simp +decide [Diagnostic.styled, bare.message, bare.name, bare.indicator,
    diagnostic.bare_neighbour above, diagnostic.bare_shownLine true primary,
    diagnostic.bare_neighbour below]

/-- Colours are all that the coloured rendering adds. Either both renderings are refused or none. -/
theorem Bare.render {diagnostic : Diagnostic} (bare : diagnostic.Bare) :
    Text.unstyled (diagnostic.render true) = diagnostic.render false ∧
    (diagnostic.render? true).map Text.unstyled = diagnostic.render? false := by
  have rendered : Text.unstyled (diagnostic.render true) = diagnostic.render false :=
    Styled.unstyled_render bare.styled true
  refine ⟨rendered, ?_⟩
  rw [render?_eq, render?_eq]
  split
  · exact congrArg Except.ok rendered
  · rfl

end Diagnostic

/-- What an emission puts on standard output, as styled text. -/
def Emission.outputSpans : Emission → Styled
  | .output styled => styled
  | .error _ | .log _ => []

def Emission.errorSpans (verbose : Bool) : Emission → Styled
  | .output _ => []
  | .error styled => styled
  | .log record => if verbose then ↑record.line else []

def Emission.Bare : Emission → Prop
  | .output styled | .error styled => styled.Bare
  | .log record => Text.Bare record.text

instance : (emission : Emission) → Decidable emission.Bare
  | .output styled | .error styled => inferInstanceAs (Decidable styled.Bare)
  | .log record => inferInstanceAs (Decidable (Text.Bare record.text))

def Report.Bare (report : Report) : Prop := ∀ emission ∈ report.emissions, emission.Bare

theorem Log.Record.bare_line {record : Log.Record} (bare : Text.Bare record.text) :
    Text.Bare record.line := by
  have level : Text.Bare record.level.name := by
    cases record.level <;> decide
  have path : Text.Bare record.origin.path := by
    cases record.origin <;> decide
  simp +decide [line, level, path, bare]

namespace Emission

theorem stdout_eq (emission : Emission) (coloured : Bool) :
    emission.stdout coloured = emission.outputSpans.render coloured := by
  cases emission <;> rfl

theorem stderr_eq (emission : Emission) (verbose coloured : Bool) :
    emission.stderr verbose coloured = (emission.errorSpans verbose).render coloured := by
  cases emission with
  | output styled => rfl
  | error styled => rfl
  | log record =>
    cases verbose with
    | false => rfl
    | true => exact (Styled.render_plain coloured record.line).symm

theorem Bare.outputSpans {emission : Emission} (bare : emission.Bare) : emission.outputSpans.Bare := by
  cases emission with
  | output styled => exact bare
  | error styled => exact Styled.bare_nil
  | log record => exact Styled.bare_nil

theorem Bare.errorSpans {emission : Emission} (bare : emission.Bare) (verbose : Bool) :
    (emission.errorSpans verbose).Bare := by
  cases emission with
  | output styled => exact Styled.bare_nil
  | error styled => exact bare
  | log record =>
    cases verbose with
    | false => exact Styled.bare_nil
    | true => exact (Styled.bare_of .plain _).mpr (Log.Record.bare_line bare)

end Emission

theorem Styled.join_render (coloured : Bool) (parts : List Styled) :
    String.join (parts.map (render coloured)) = render coloured parts.flatten := by
  induction parts with
  | nil => rfl
  | cons part parts ih => rw [List.map_cons, String.join_cons, ih, List.flatten_cons, render_append]

theorem Styled.bare_flatten {parts : List Styled} (bare : ∀ part ∈ parts, part.Bare) :
    Bare parts.flatten := by
  intro span member
  obtain ⟨part, among, inside⟩ := List.mem_flatten.mp member
  exact bare part among span inside

/-- The same answer but for the styles in it. -/
structure Answer.Decorates (answer plain : Answer) : Prop where
  code : answer.code = plain.code
  stdout : Text.unstyled answer.stdout = plain.stdout
  stderr : Text.unstyled answer.stderr = plain.stderr

/-- Both answers say the same when the styles are taken out of both. -/
structure Answer.SameWords (answer plain : Answer) : Prop where
  code : answer.code = plain.code
  stdout : Text.unstyled answer.stdout = Text.unstyled plain.stdout
  stderr : Text.unstyled answer.stderr = Text.unstyled plain.stderr

/-- Both answers are renderings of the same spans. -/
theorem Report.Bare.decorates {report : Report} (bare : report.Bare) (verbose coloured : Bool) :
    (report.answer verbose coloured).Decorates (report.answer verbose false) := by
  have output (coloured : Bool) : (report.answer verbose coloured).stdout =
      Styled.render coloured (report.emissions.map Emission.outputSpans).flatten := by
    rw [← Styled.join_render, List.map_map]
    exact congrArg String.join (List.map_congr_left fun emission _ => emission.stdout_eq coloured)
  have error (coloured : Bool) : (report.answer verbose coloured).stderr =
      Styled.render coloured (report.emissions.map (Emission.errorSpans verbose)).flatten := by
    rw [← Styled.join_render, List.map_map]
    exact congrArg String.join
      (List.map_congr_left fun emission _ => emission.stderr_eq verbose coloured)
  constructor
  · rfl
  · rw [output, output]
    apply Styled.unstyled_render
    apply Styled.bare_flatten
    rintro _ member
    obtain ⟨emission, said, rfl⟩ := List.mem_map.mp member
    exact (bare emission said).outputSpans
  · rw [error, error]
    apply Styled.unstyled_render
    apply Styled.bare_flatten
    rintro _ member
    obtain ⟨emission, said, rfl⟩ := List.mem_map.mp member
    exact (bare emission said).errorSpans verbose

/-- An answer without colours has no styles that could be taken out of it. -/
theorem Report.Bare.sameWords {report : Report} (bare : report.Bare) (verbose coloured : Bool) :
    (report.answer verbose coloured).SameWords (report.answer verbose false) := by
  have plain := bare.decorates verbose false
  have decorated := bare.decorates verbose coloured
  exact ⟨rfl, decorated.stdout.trans plain.stdout.symm, decorated.stderr.trans plain.stderr.symm⟩

end TokenScan
