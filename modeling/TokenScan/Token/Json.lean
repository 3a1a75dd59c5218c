import TokenScan.Json
import TokenScan.Token

/-! Locations, ranges and tokens as JSON documents. Fields stand in a fixed order. -/
namespace TokenScan

def Location.json (location : Location) : Json :=
  .object [("offset", .number location.offset), ("line", .number location.line),
    ("column", .number location.column)]

def Range.json (range : Range) : Json :=
  .object [("start", range.start.json), ("end", range.finish.json)]

def Kind.json (kind : Kind) : Json := .text kind.name

def Lexeme.json (lexeme : Lexeme) : Json :=
  .object [("kind", lexeme.kind.json), ("text", .text lexeme.text)]

def Token.json (token : Token) : Json :=
  .object [("kind", token.kind.json), ("text", .text token.text),
    ("begin", token.start.json), ("end", token.finish.json)]

end TokenScan
