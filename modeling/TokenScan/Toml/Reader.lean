/-! Readers: functions that take something off the front of a text or refuse it. A refusal
takes nothing, so that another reader may be tried in its place. -/
namespace TokenScan.Toml

abbrev Reader (α : Type) := StateT (List Char) Option α

namespace Reader

def peek : Reader (Option Char) := fun chars => some (chars.head?, chars)

def satisfy (accepts : Char → Bool) : Reader Char := fun chars =>
  match chars with
  | [] => none
  | c :: rest => if accepts c then some (c, rest) else none

def char (c : Char) : Reader Unit := do
  let _ ← satisfy (· == c)

def literal (text : String) : Reader Unit := fun chars =>
  if text.toList.isPrefixOf chars then some ((), chars.drop text.length) else none

def run (accepts : Char → Bool) : Reader (List Char) := fun chars =>
  some (chars.takeWhile accepts, chars.dropWhile accepts)

def someRun (accepts : Char → Bool) : Reader (List Char) := do
  let first ← satisfy accepts
  return first :: (← run accepts)

def exactly (accepts : Char → Bool) : Nat → Reader (List Char)
  | 0 => pure []
  | count + 1 => do
    let first ← satisfy accepts
    return first :: (← exactly accepts count)

/-- As often as the reader succeeds, but at most once for each character of the bound. -/
def repeatedly {α : Type} (reader : Reader α) : List Char → List Char → List α × List Char
  | [], chars => ([], chars)
  | _ :: bound, chars =>
    match reader chars with
    | none => ([], chars)
    | some (value, rest) =>
      let others := repeatedly reader bound rest
      (value :: others.1, others.2)

/-- As often as the reader succeeds. No reader here succeeds without taking a character, so the
text is bound enough for itself. -/
def many {α : Type} (reader : Reader α) : Reader (List α) := fun chars =>
  some (repeatedly reader chars chars)

/-- One or more, with a separator between neighbours. A separator with nothing behind it is
left where it is. -/
def separated {α : Type} (separator : Reader Unit) (reader : Reader α) : Reader (List α) := do
  let first ← reader
  return first :: (← many (do separator; reader))

def atEnd : Reader Unit := fun chars => if chars.isEmpty then some ((), []) else none

def require (condition : Bool) : Reader Unit := if condition then pure () else failure

def ofOption {α : Type} : Option α → Reader α
  | some value => pure value
  | none => failure

def whole {α : Type} (reader : Reader α) (chars : List Char) : Option α := do
  let (value, rest) ← reader chars
  if rest.isEmpty then some value else none

def blanks : Reader Unit := do
  let _ ← run fun c => c == ' ' || c == '\t'

def newline : Reader Unit := char '\n' <|> literal "\r\n"

/-- Characters that may stand in comments and strings: all but control characters, though tabs
are among them. -/
def isText (c : Char) : Bool := c == '\t' || (0x20 ≤ c.toNat && c != '\x7f')

def comment : Reader Unit := do
  char '#'
  let _ ← run isText

def lineEnd : Reader Unit := do
  blanks
  let _ ← optional comment
  newline <|> atEnd

def gap : Reader Unit := do
  blanks
  let _ ← many do
    let _ ← optional comment
    newline
    blanks

end Reader

end TokenScan.Toml
