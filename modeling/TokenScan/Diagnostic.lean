import TokenScan.Failure
import TokenScan.Range
import TokenScan.Styled
import TokenScan.Text.Blank
import TokenScan.Text.Layout
import TokenScan.Text.Lines

/-! Diagnostics: a message, the source line that it is about with the line before and the line
after, and a caret under the place. Only the first line of a range is shown. -/
namespace TokenScan

structure Diagnostic where
  name : String
  source : String
  range : Range
  message : String
  hint : Option String
  deriving DecidableEq, Repr

namespace Diagnostic

def ofFailure (name source : String) (failure : Failure) : Diagnostic :=
  ⟨name, source, .empty failure.location, failure.message, some failure.hint⟩

def lineNumber (diagnostic : Diagnostic) : String := toString (diagnostic.range.start.line + 1)

/-- The marginal column beside a line: its number, or as many spaces. -/
def gutter (diagnostic : Diagnostic) (numbered : Bool) : Styled :=
  let separator := Styled.of .blueBold " | "
  if numbered then .of .blueBold diagnostic.lineNumber ++ separator
  else Text.spaces diagnostic.lineNumber.length ++ separator

def shownLine (diagnostic : Diagnostic) (numbered : Bool) (line : List Char) : Styled :=
  diagnostic.gutter numbered ++ ↑(String.ofList line ++ "\n")

def previousLine (diagnostic : Diagnostic) : Option (List Char) :=
  match diagnostic.range.start.line with
  | 0 => none
  | index + 1 => (Text.lines diagnostic.source.toList)[index]?.filter fun line => !line.all Text.isBlank

/-- The line that the range starts on; empty where the source has no such line. -/
def primaryLine (diagnostic : Diagnostic) : List Char :=
  (Text.lines diagnostic.source.toList)[diagnostic.range.start.line]?.getD []

def followingLine (diagnostic : Diagnostic) : Option (List Char) :=
  (Text.lines diagnostic.source.toList)[diagnostic.range.start.line + 1]?

/-- The caret stands under the first character of the range, a tilde under each other one. -/
def indicator (diagnostic : Diagnostic) : Styled :=
  diagnostic.gutter false ++ ↑(Text.spaces diagnostic.range.start.column) ++
    .of .redBold "^" ++ .of .red (Text.repeated '~' (diagnostic.range.length - 1)) ++ ↑" " ++
    (match diagnostic.hint with
      | some hint => .of .redBold ("hint: " ++ hint)
      | none => .of .bold "") ++ ↑"\n"

def styled (diagnostic : Diagnostic) : Styled :=
  .of .redBold "error" ++ ↑": " ++ .of .bold diagnostic.message ++ ↑"\n\n" ++
    (diagnostic.previousLine.elim [] (diagnostic.shownLine false)) ++
    diagnostic.shownLine true diagnostic.primaryLine ++
    diagnostic.indicator ++
    (diagnostic.followingLine.elim [] (diagnostic.shownLine false)) ++
    ↑s!"\nIn {diagnostic.name}:{diagnostic.range.start.label}\n\n"

def render (coloured : Bool) (diagnostic : Diagnostic) : String := diagnostic.styled.render coloured

/-- The rendering for a range that may start at the end of the 64-bit words. -/
def render? (coloured : Bool) (diagnostic : Diagnostic) : Except Fault String := do
  let _ ← diagnostic.range.start.label?
  return diagnostic.render coloured

theorem render?_eq (coloured : Bool) (diagnostic : Diagnostic) :
    diagnostic.render? coloured =
      if diagnostic.range.start.Labelled then .ok (diagnostic.render coloured)
      else .error .overflow := by
  simp only [render?, Location.label?_eq]
  split <;> rfl

end Diagnostic

/-- The diagnostic of a failure, about the empty range at its place. -/
def Failure.render? (coloured : Bool) (name source : String) (failure : Failure) :
    Except Fault String := do
  let range ← Range.between? failure.location failure.location
  let _ ← range.length?
  Diagnostic.render? coloured ⟨name, source, range, failure.message, some failure.hint⟩

end TokenScan
