import TokenScan.Head
import TokenScan.Location
import TokenScan.Log

/-! What ends a scan early: a character that begins no lexeme, or a string that is never
closed, which is reported where it opens. -/
namespace TokenScan

structure Failure where
  location : Location
  reason : Reason
  deriving DecidableEq, Repr

namespace Failure

def message (failure : Failure) : String :=
  s!"{failure.reason.message} at position {failure.location.offset}"

def hint (failure : Failure) : String :=
  match failure.reason with
  | .unexpectedCharacter _ =>
    "only letters, digits, `\"`, `(`, `)`, `;` and the operators `+ - * / % = ! < >` are allowed"
  | .unterminatedString => "this string is never closed with a `\"`"

def record (failure : Failure) : Log.Record :=
  ⟨.debug, .scanner, s!"Scan failed: {failure.message}"⟩

end Failure

end TokenScan
