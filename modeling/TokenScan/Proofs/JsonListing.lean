import TokenScan.Listing
import TokenScan.Proofs.JsonWritten

/-! Tokens come back from the JSON that is written for them. Fields are looked up by their names,
so what is read back does not depend on their order, on blanks, or on which escapes are used. -/
namespace TokenScan

namespace Json

def field? (document : Json) (name : String) : Option Json :=
  match document with
  | .object fields => fields.lookup name
  | _ => none

def number? : Json → Option Nat
  | .number value => some value
  | _ => none

def text? : Json → Option String
  | .text value => some value
  | _ => none

def listOf? {α : Type} (read : Json → Option α) : Json → Option (List α)
  | .array items => items.mapM read
  | _ => none

end Json

def Kind.ofJson? (document : Json) : Option Kind := do
  let name ← document.text?
  Kind.all.find? fun kind => kind.name == name

def Location.ofJson? (document : Json) : Option Location := do
  let offset ← (← document.field? "offset").number?
  let line ← (← document.field? "line").number?
  let column ← (← document.field? "column").number?
  return ⟨offset, line, column⟩

def Lexeme.ofJson? (document : Json) : Option Lexeme := do
  let kind ← Kind.ofJson? (← document.field? "kind")
  let text ← (← document.field? "text").text?
  return ⟨kind, text⟩

def Token.ofJson? (document : Json) : Option Token := do
  let lexeme ← Lexeme.ofJson? document
  let start ← Location.ofJson? (← document.field? "begin")
  let finish ← Location.ofJson? (← document.field? "end")
  return ⟨lexeme, start, finish⟩

/-- The text says one document, and the value is what is read from this. -/
def Json.Reads {α : Type} (read : Json → Option α) (text : String) (document : Json)
    (value : α) : Prop :=
  (∀ other, Says text other ↔ other = document) ∧ read document = some value

/-- One text, one value. -/
theorem Json.Reads.unique {α : Type} {read : Json → Option α} {text : String}
    {document document' : Json} {value value' : α} (first : Reads read text document value)
    (second : Reads read text document' value') : value = value' := by
  obtain rfl : document = document' := (second.1 document).mp ((first.1 document).mpr rfl)
  exact Option.some.inj (first.2.symm.trans second.2)

/-- All tokens as one array, without blanks. -/
def serialized (tokens : List Token) : String := (Json.array (tokens.map Token.json)).compact

theorem Kind.ofJson?_json (kind : Kind) : Kind.ofJson? kind.json = some kind := by
  cases kind <;> rfl

theorem Lexeme.ofJson?_json (lexeme : Lexeme) : Lexeme.ofJson? lexeme.json = some lexeme := by
  have kind := lexeme.kind.ofJson?_json
  have field : lexeme.json.field? "kind" = some lexeme.kind.json := rfl
  rw [ofJson?, field]
  simp only [Option.bind_eq_bind, Option.bind_some, kind]
  rfl

/-- The fields of a lexeme are read from those of a token too. -/
theorem Token.ofJson?_json (token : Token) : Token.ofJson? token.json = some token := by
  have lexeme : Lexeme.ofJson? token.json = some token.toLexeme := token.toLexeme.ofJson?_json
  rw [ofJson?, lexeme]
  rfl

theorem Json.listOf?_array {α β : Type} {read : Json → Option α} {write : β → Json} {value : β → α}
    (inverse : ∀ item, read (write item) = some (value item)) (items : List β) :
    listOf? read (.array (items.map write)) = some (items.map value) := by
  rw [listOf?]
  induction items with
  | nil => rfl
  | cons item items ih => simp [inverse, ih]

theorem serialized_reads (tokens : List Token) : Json.Reads (Json.listOf? Token.ofJson?)
    (serialized tokens) (.array (tokens.map Token.json)) tokens := by
  constructor
  · intro other
    have written := Json.Layout.compact_lawful.says_iff (.array (tokens.map Token.json)) ""
      (by decide) other
    rwa [String.append_empty] at written
  · simpa using Json.listOf?_array Token.ofJson?_json tokens

theorem json_located_reads (tokens : List Token) : Json.Reads (Json.listOf? Token.ofJson?)
    (Listing.json true tokens) (.array (tokens.map Token.json)) tokens := by
  constructor
  · intro other
    exact Json.Layout.pretty_lawful.says_iff (.array (tokens.map Token.json)) "\n" (by decide) other
  · simpa using Json.listOf?_array Token.ofJson?_json tokens

/-- Without locations only the lexemes are listed. -/
theorem json_unlocated (tokens : List Token) : Listing.json false tokens =
    (Json.array ((tokens.map Token.toLexeme).map Lexeme.json)).pretty ++ "\n" := by
  rw [List.map_map]
  rfl

theorem json_unlocated_reads (tokens : List Token) : Json.Reads (Json.listOf? Lexeme.ofJson?)
    (Listing.json false tokens) (.array (tokens.map fun token => token.toLexeme.json))
    (tokens.map Token.toLexeme) := by
  constructor
  · intro other
    exact Json.Layout.pretty_lawful.says_iff _ "\n" (by decide) other
  · exact Json.listOf?_array (fun token : Token => token.toLexeme.ofJson?_json) tokens

/-- All outputs are JSON texts that say one document each, and can be written of any tokens. The two
that have locations say the same document, from which all tokens are read; from the other one, all
lexemes are. -/
theorem json_tells_tokens :
    (∀ tokens : List Token, ∃ located unlocated,
      Listing.render ⟨.json, true⟩ tokens = .ok located ∧
      Listing.render ⟨.json, false⟩ tokens = .ok unlocated ∧
      Json.Reads (Json.listOf? Token.ofJson?) (serialized tokens)
        (.array (tokens.map Token.json)) tokens ∧
      Json.Reads (Json.listOf? Token.ofJson?) located (.array (tokens.map Token.json)) tokens ∧
      Json.Reads (Json.listOf? Lexeme.ofJson?) unlocated
        (.array (tokens.map fun token => token.toLexeme.json)) (tokens.map Token.toLexeme)) ∧
    ∀ tokens others : List Token,
      (serialized tokens = serialized others ↔ tokens = others) ∧
      (Listing.render ⟨.json, true⟩ tokens = Listing.render ⟨.json, true⟩ others ↔ tokens = others) ∧
      (Listing.render ⟨.json, false⟩ tokens = Listing.render ⟨.json, false⟩ others ↔
        tokens.map Token.toLexeme = others.map Token.toLexeme) := by
  refine ⟨fun tokens => ⟨_, _, rfl, rfl, serialized_reads tokens, json_located_reads tokens,
    json_unlocated_reads tokens⟩, fun tokens others => ⟨?_, ?_, ?_⟩⟩
  · constructor
    · intro same
      have reads := serialized_reads tokens
      rw [same] at reads
      exact reads.unique (serialized_reads others)
    · exact congrArg serialized
  · constructor
    · intro same
      have texts : Listing.json true tokens = Listing.json true others := Except.ok.inj same
      have reads := json_located_reads tokens
      rw [texts] at reads
      exact reads.unique (json_located_reads others)
    · exact congrArg (Listing.render ⟨.json, true⟩)
  · constructor
    · intro same
      have texts : Listing.json false tokens = Listing.json false others := Except.ok.inj same
      have reads := json_unlocated_reads tokens
      rw [texts] at reads
      exact reads.unique (json_unlocated_reads others)
    · intro same
      have lexemes : Listing.json false tokens = Listing.json false others := by
        rw [json_unlocated, json_unlocated, same]
      exact congrArg Except.ok lexemes

end TokenScan
