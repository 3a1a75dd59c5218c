import TokenScan.Decimal.Binary64
import TokenScan.Toml.Text

/-! Integers of 64 bits and floating point numbers. -/
namespace TokenScan.Toml

open Reader Decimal

inductive Number where
  | integer (value : Int)
  | float (value : Binary64)
  deriving DecidableEq, Repr

/-- Digits with single underscores between them, which are dropped. -/
def grouped (isDigit : Char → Bool) : Reader (List Char) := do
  let first ← satisfy isDigit
  let others ← many do
    let _ ← optional (char '_')
    satisfy isDigit
  return first :: others

def valueIn (base : Nat) (digits : List Char) : Nat :=
  digits.foldl (fun value digit => base * value + hexValue [digit]) 0

/-- Integers are those of 64 bits with a sign. -/
def integerInRange (value : Int) : Reader Number := do
  require (-Int.pow 2 63 ≤ value && value < Int.pow 2 63)
  return .integer value

/-- Hexadecimal, octal and binary integers have no sign. -/
def basedInteger (mark : String) (base : Nat) (isDigit : Char → Bool) : Reader Number := do
  literal mark
  integerInRange (valueIn base (← grouped isDigit))

def sign : Reader Bool := do
  return (← optional (satisfy fun c => c == '+' || c == '-')) == some '-'

/-- The digits before the point have no leading zero. -/
def wholePart : Reader (List Char) := do
  let digits ← grouped Char.isDigit
  require (digits.length == 1 || digits.head? != some '0')
  return digits

def exponentPart : Reader Int := do
  let _ ← satisfy fun c => c == 'e' || c == 'E'
  let negative ← sign
  let value := valueIn 10 (← grouped Char.isDigit)
  return if negative then -(value : Int) else value

/-- A number that rounds to positive infinity is refused. -/
def decimalNumber : Reader Number := do
  let negative ← sign
  let digits ← wholePart
  let fraction ← optional (do char '.'; grouped Char.isDigit)
  let exponent ← optional exponentPart
  if fraction.isNone && exponent.isNone then
    let value := valueIn 10 digits
    integerInRange (if negative then -(value : Int) else value)
  else
    let behind := fraction.getD []
    let value := Binary64.nearest negative (valueIn 10 (digits ++ behind))
      (exponent.getD 0 - behind.length)
    require (value != .infinite false)
    return .float value

def specialFloat : Reader Number := do
  let negative ← sign
  (do literal "inf"; return .float (.infinite negative)) <|>
    (do literal "nan"; return .float .notANumber)

def number : Reader Number :=
  basedInteger "0x" 16 isHexDigit <|> basedInteger "0o" 8 (fun c => '0' ≤ c && c ≤ '7') <|>
    basedInteger "0b" 2 (fun c => c == '0' || c == '1') <|> decimalNumber <|> specialFloat

end TokenScan.Toml
