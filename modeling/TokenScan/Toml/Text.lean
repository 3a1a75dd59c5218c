import TokenScan.Toml.Reader

/-! Strings and keys. Basic strings stand between double quotes and know escapes, literal ones
between single quotes and know none; either kind may span lines between tripled quotes. -/
namespace TokenScan.Toml

open Reader

def hexValue (digits : List Char) : Nat :=
  digits.foldl (fun value digit =>
    16 * value + (if digit.isDigit then digit.toNat - '0'.toNat
      else digit.toLower.toNat - 'a'.toNat + 10)) 0

def isHexDigit (c : Char) : Bool :=
  c.isDigit || ('a' ≤ c && c ≤ 'f') || ('A' ≤ c && c ≤ 'F')

/-- A character by its code point; surrogates are no characters. -/
def codePoint (count : Nat) : Reader Char := do
  let value := hexValue (← exactly isHexDigit count)
  require (decide value.isValidChar)
  return Char.ofNat value

def escape : Reader Char := do
  char '\\'
  match ← satisfy fun _ => true with
  | 'b' => return '\x08'
  | 't' => return '\t'
  | 'n' => return '\n'
  | 'f' => return '\x0c'
  | 'r' => return '\r'
  | '"' => return '"'
  | '\\' => return '\\'
  | 'u' => codePoint 4
  | 'U' => codePoint 8
  | _ => failure

def isBasic (c : Char) : Bool := isText c && c != '"' && c != '\\'

def isLiteral (c : Char) : Bool := isText c && c != '\''

def basicString : Reader String := do
  char '"'
  let inside ← many (satisfy isBasic <|> escape)
  char '"'
  return String.ofList inside

def literalString : Reader String := do
  char '\''
  let inside ← run isLiteral
  char '\''
  return String.ofList inside

/-- One or two quotes that do not close the string. -/
def innerQuotes (quote : Char) : Reader (List Char) := do
  let quotes ← someRun (· == quote)
  require (quotes.length ≤ 2)
  return quotes

/-- Three quotes close the string; up to two before them belong to it. -/
def closingQuotes (quote : Char) : Reader (List Char) := do
  let quotes ← run (· == quote)
  require (3 ≤ quotes.length && quotes.length ≤ 5)
  return quotes.drop 3

/-- A backslash at the end of a line joins what follows the next blanks and line ends. -/
def joinedLines : Reader (List Char) := do
  char '\\'
  blanks
  newline
  let _ ← many (newline <|> char ' ' <|> char '\t')
  return []

def lineFeed : Reader (List Char) := do
  newline
  return ['\n']

/-- A line end directly behind the opening quotes is dropped. -/
def longString (quote : Char) (piece : Reader (List Char)) : Reader String := do
  let _ ← exactly (· == quote) 3
  let _ ← optional newline
  let inside ← many (piece <|> lineFeed <|> innerQuotes quote)
  return String.ofList (inside.flatten ++ (← closingQuotes quote))

def longBasicString : Reader String :=
  longString '"' (someRun isBasic <|> joinedLines <|> (fun c => [c]) <$> escape)

def longLiteralString : Reader String := longString '\'' (someRun isLiteral)

/-- Three quotes always open a string that may span lines. -/
def string : Reader String := fun chars =>
  match chars with
  | '"' :: '"' :: '"' :: _ => longBasicString chars
  | '\'' :: '\'' :: '\'' :: _ => longLiteralString chars
  | '"' :: _ => basicString chars
  | '\'' :: _ => literalString chars
  | _ => none

def isBareKey (c : Char) : Bool := c.isAlphanum || c == '-' || c == '_'

def simpleKey : Reader String :=
  basicString <|> literalString <|> String.ofList <$> someRun isBareKey

/-- Keys and tables are followed at most this deep, less one. -/
def depthLimit : Nat := 80

/-- A dotted key: the tables that it leads through, and its last part. -/
def key : Reader (List String × String) := do
  let parts ← separated (char '.') do
    blanks
    let part ← simpleKey
    blanks
    return part
  require (parts.length < depthLimit)
  match parts.getLast? with
  | some last => return (parts.dropLast, last)
  | none => failure

end TokenScan.Toml
