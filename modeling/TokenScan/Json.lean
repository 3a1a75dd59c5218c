/-! JSON documents and how they are written. One writer serves both layouts: they differ only
in what stands where a line may break and after a colon. -/
namespace TokenScan

inductive Json where
  | number (value : Nat)
  | text (value : String)
  | array (items : List Json)
  | object (fields : List (String × Json))

namespace Json

/-- Only quotes, backslashes and the characters below U+0020 are escaped, the latter by their
short names where JSON has one. -/
def escaped (c : Char) : List Char :=
  if c = '"' then ['\\', '"']
  else if c = '\\' then ['\\', '\\']
  else if c = '\x08' then ['\\', 'b']
  else if c = '\x0c' then ['\\', 'f']
  else if c = '\n' then ['\\', 'n']
  else if c = '\r' then ['\\', 'r']
  else if c = '\t' then ['\\', 't']
  else if c.toNat < 0x20 then
    ['\\', 'u', '0', '0', Nat.digitChar (c.toNat / 16), Nat.digitChar (c.toNat % 16)]
  else [c]

def quoted (text : String) : String :=
  String.ofList ('"' :: text.toList.flatMap escaped ++ ['"'])

structure Layout where
  /-- What stands where a line may break, at a depth of nesting. -/
  newline : Nat → String
  colon : String

def Layout.compact : Layout := ⟨fun _ => "", ":"⟩

/-- A line for each item and field, two blanks deeper for each level of nesting. -/
def Layout.pretty : Layout :=
  ⟨fun depth => String.ofList ('\n' :: List.replicate (2 * depth) ' '), ": "⟩

mutual
def pieces (layout : Layout) (depth : Nat) : Json → List String
  | .number value => [toString value]
  | .text value => [quoted value]
  | .array [] => ["[]"]
  | .array (item :: items) =>
    "[" :: layout.newline (depth + 1) :: pieces layout (depth + 1) item ++
      itemPieces layout (depth + 1) items ++ [layout.newline depth, "]"]
  | .object [] => ["\x7b\x7d"]
  | .object ((key, value) :: fields) =>
    "\x7b" :: layout.newline (depth + 1) :: quoted key :: layout.colon ::
      pieces layout (depth + 1) value ++
      fieldPieces layout (depth + 1) fields ++ [layout.newline depth, "\x7d"]

def itemPieces (layout : Layout) (depth : Nat) : List Json → List String
  | [] => []
  | item :: items =>
    "," :: layout.newline depth :: pieces layout depth item ++ itemPieces layout depth items

def fieldPieces (layout : Layout) (depth : Nat) : List (String × Json) → List String
  | [] => []
  | (key, value) :: fields =>
    "," :: layout.newline depth :: quoted key :: layout.colon :: pieces layout depth value ++
      fieldPieces layout depth fields
end

def write (layout : Layout) (document : Json) : String := String.join (document.pieces layout 0)

def compact (document : Json) : String := document.write .compact
def pretty (document : Json) : String := document.write .pretty

end Json

end TokenScan
