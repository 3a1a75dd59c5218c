import TokenScan.Keyword

/-! Lexemes: the words, numbers, signs and strings that a source text is made of, each a kind
and a text. `written` is how a lexeme stands in the source. -/
namespace TokenScan

/-- In the order in which the kinds are listed. The last one marks the end of a text. -/
inductive Kind where
  | identifier | number | operator | keyword | stringLiteral | parenthesis | statementEnd | endOfInput
  deriving DecidableEq, Repr

namespace Kind

def all : List Kind :=
  [.identifier, .number, .operator, .keyword, .stringLiteral, .parenthesis, .statementEnd, .endOfInput]

def name : Kind → String
  | .identifier => "IDENTIFIER"
  | .number => "NUMBER"
  | .operator => "OPERATOR"
  | .keyword => "KEYWORD"
  | .stringLiteral => "STRING"
  | .parenthesis => "PARENTHESIS"
  | .statementEnd => "ENDING"
  | .endOfInput => "END_OF_FILE"

/-- The name in words run together, as in a heading. -/
def title : Kind → String
  | .identifier => "Identifier"
  | .number => "Number"
  | .operator => "Operator"
  | .keyword => "Keyword"
  | .stringLiteral => "StringLiteral"
  | .parenthesis => "Parenthesis"
  | .statementEnd => "StatementEnd"
  | .endOfInput => "EndOfInput"

end Kind

structure Lexeme where
  kind : Kind
  /-- The text itself; of a string, what stands between its quotes. -/
  text : String
  deriving DecidableEq, Repr

namespace Lexeme

def written (lexeme : Lexeme) : List Char :=
  match lexeme.kind with
  | .stringLiteral => '"' :: lexeme.text.toList ++ ['"']
  | _ => lexeme.text.toList

/-- A word is a keyword if it is spelt like one, else an identifier. -/
def word (text : String) : Lexeme :=
  ⟨if (Keyword.ofSpelling? text).isSome then .keyword else .identifier, text⟩

def keyword? (lexeme : Lexeme) : Option Keyword :=
  match lexeme.kind with
  | .keyword => Keyword.ofSpelling? lexeme.text
  | _ => none

/-- As log lines show it: the text in parentheses, that of a string between quotes as well. -/
def label (lexeme : Lexeme) : String :=
  match lexeme.kind with
  | .stringLiteral => lexeme.kind.name ++ "(\"" ++ lexeme.text ++ "\")"
  | .endOfInput => lexeme.kind.name
  | _ => lexeme.kind.name ++ "(" ++ lexeme.text ++ ")"

@[simp] theorem word_text (text : String) : (word text).text = text := rfl

theorem word_written (text : String) : (word text).written = text.toList := by
  by_cases reserved : (Keyword.ofSpelling? text).isSome <;> simp [word,written,reserved]

end Lexeme

end TokenScan
