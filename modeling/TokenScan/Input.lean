import TokenScan.FileTree
import TokenScan.Text.Blank
import TokenScan.Text.Lines

/-! What a run reads: named source texts, and the lines of a session. -/
namespace TokenScan

structure Input where
  name : String
  contents : String
  deriving DecidableEq, Repr

namespace Input

def ofSource (contents : String) : Input := ⟨"<source>", contents⟩

def ofFile (path contents : String) : Input := ⟨path, contents⟩

def ofStandardInput (contents : String) : Input := ⟨"<stdin>", contents⟩

def isBlank (input : Input) : Bool := Text.allBlank input.contents

/-- Bytes as text. A byte order mark is a character like any other. -/
def decode (bytes : ByteArray) : Except ReadFault String :=
  match String.fromUTF8? bytes with
  | some text => .ok text
  | none => .error .notText

def byteLines : List UInt8 → List (List UInt8)
  | [] => []
  | byte :: rest =>
    if byte = 10 then [byte] :: byteLines rest
    else
      match byteLines rest with
      | [] => [[byte]]
      | line :: more => (byte :: line) :: more

/-- The text of the lines before the first one that is not UTF-8. -/
def readableText (bytes : ByteArray) : String :=
  let decoded := (byteLines bytes.toList).map fun line => String.fromUTF8? ⟨line.toArray⟩
  String.join ((decoded.takeWhile Option.isSome).filterMap id)

/-- The lines that can be read, and whether they are all. -/
def sessionLines (bytes : ByteArray) : List String × Bool :=
  let linesOf (text : String) := (Text.lines text.toList).map String.ofList
  match decode bytes with
  | .ok text => (linesOf text, true)
  | .error _ => (linesOf (readableText bytes), false)

end Input

end TokenScan
