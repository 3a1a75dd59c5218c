import TokenScan.Lexeme
import TokenScan.Log
import TokenScan.Range

/-! Tokens: lexemes with the stretch of the source that they were read from. -/
namespace TokenScan

structure Token extends Lexeme where
  start : Location
  finish : Location
  deriving DecidableEq, Repr

namespace Token

def written (lexeme : Lexeme) (start : Location) : Token :=
  ⟨lexeme, start, start.past lexeme.written⟩

@[simp] theorem written_toLexeme (lexeme : Lexeme) (start : Location) :
    (written lexeme start).toLexeme = lexeme := rfl

@[simp] theorem written_start (lexeme : Lexeme) (start : Location) :
    (written lexeme start).start = start := rfl

@[simp] theorem written_finish (lexeme : Lexeme) (start : Location) :
    (written lexeme start).finish = start.past lexeme.written := rfl

/-- The mark at the end of a text, which covers nothing. -/
def endOfInput (location : Location) : Token := ⟨⟨.endOfInput, ""⟩, location, location⟩

/-- The characters that the token was read from, quotes included. -/
def range? (token : Token) : Except Fault Range := Range.between? token.start token.finish

def record (token : Token) : Log.Record :=
  ⟨.trace, .scanner, s!"{token.label} at {token.start.label}"⟩

end Token

end TokenScan
