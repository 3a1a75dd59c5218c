import TokenScan.Toml.Expression

/-! Whole documents: lines of key and value, each belonging to the table whose header stands
above it. -/
namespace TokenScan.Toml

open Reader

inductive Statement where
  | keyValue (path : List String) (key : String) (value : Value)
  | table (path : List String) (key : String)
  | element (path : List String) (key : String)

def header : Reader Statement :=
  (do
    literal "[["
    let key ← key
    literal "]]"
    lineEnd
    return .element key.1 key.2) <|>
  (do
    char '['
    let key ← key
    char ']'
    lineEnd
    return .table key.1 key.2)

def assignment : Reader Statement := do
  let entry ← keyValue value
  lineEnd
  return .keyValue entry.1.1 entry.1.2 entry.2

/-- One line, which may say nothing. Behind the last line end there is no further line. -/
def line : Reader (Option Statement) := do
  let _ ← ofOption (← peek)
  blanks
  (do lineEnd; return none) <|> some <$> header <|> some <$> assignment

def statements : Reader (List Statement) := do
  let _ ← optional (char '\ufeff')
  return (← many line).filterMap id

/-- Where the key of a header leads: which table is being read. -/
structure Place where
  path : List String
  key : String
  isElement : Bool

/-- The document up to some line. The table being read is kept apart from the others. -/
structure Progress where
  root : Draft
  place : Option Place
  current : Draft

namespace Progress

def close (progress : Progress) : Option Draft :=
  match progress.place with
  | none => some progress.current
  | some place =>
    if place.isElement then progress.root.closeElement place.path place.key progress.current
    else progress.root.closeTable place.path place.key progress.current

def step (progress : Progress) : Statement → Option Progress
  | .keyValue path key value => do
    return { progress with current := ← progress.current.insert path key value }
  | .table path key => do
    let (table, root) ← (← progress.close).openTable path key
    return ⟨root, some ⟨path, key, false⟩, table⟩
  | .element path key => do
    return ⟨← (← progress.close).openElement path key, some ⟨path, key, true⟩, []⟩

end Progress

def read (text : String) : Option Table := do
  let statements ← Reader.whole statements text.toList
  let progress ← statements.foldlM Progress.step ⟨[], none, []⟩
  return Draft.table (← progress.close)

end TokenScan.Toml
