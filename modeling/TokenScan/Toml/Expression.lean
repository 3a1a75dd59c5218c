import TokenScan.Toml.Draft
import TokenScan.Toml.Number

/-! Values as they are written. -/
namespace TokenScan.Toml

open Reader

def boolean : Reader Bool :=
  (do literal "true"; return true) <|> (do literal "false"; return false)

/-- A date or time is tried first, since it begins with digits too. -/
def scalar : Reader Value :=
  .text <$> string <|> .boolean <$> boolean <|> .moment <$> moment <|>
    (do
      match ← number with
      | .integer value => return .integer value
      | .float value => return .float value)

/-- A comma may follow the last item. -/
def array (item : Reader Value) : Reader Value := do
  char '['
  let items ← optional do
    let items ← separated (char ',') (do gap; let value ← item; gap; return value)
    let _ ← optional (char ',')
    return items
  gap
  char ']'
  return .array (items.getD [])

def keyValue (item : Reader Value) : Reader ((List String × String) × Value) := do
  let key ← key
  char '='
  blanks
  let value ← item
  return (key, value)

/-- A table on one line. No comma may follow its last entry. -/
def inlineTable (item : Reader Value) : Reader Value := do
  char '\x7b'
  let entries ← optional do
    separated (char ',') (do let entry ← keyValue item; blanks; return entry)
  blanks
  char '\x7d'
  let draft ← ofOption ((entries.getD []).foldlM (fun draft entry =>
    Draft.insert draft entry.1.1 entry.1.2 entry.2) [])
  return .table (Draft.table draft)

/-- A value in which arrays and inline tables are nested at most so deep. -/
def nested : Nat → Reader Value
  | 0 => scalar
  | depth + 1 => array (nested depth) <|> inlineTable (nested depth) <|> scalar

def value : Reader Value := nested (depthLimit - 1)

end TokenScan.Toml
