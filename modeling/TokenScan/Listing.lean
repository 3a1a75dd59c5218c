import TokenScan.Text.Layout
import TokenScan.Token.Json

/-! Listings of tokens: as a table, as a line for each token, or as a JSON document. Texts are
shown on one line, except in JSON, which has escapes of its own. -/
namespace TokenScan

inductive Format where
  | table | plain | json
  deriving DecidableEq, Repr

namespace Format

def all : List Format := [.table, .plain, .json]

def name : Format → String
  | .table => "table"
  | .plain => "plain"
  | .json => "json"

def ofName? (name : String) : Option Format := all.find? fun format => format.name == name

/-- Letters A to Z count as their small forms, no other letter does. -/
def ofNameIgnoringCase? (name : String) : Option Format := ofName? name.toLower

@[simp] theorem ofName?_name (format : Format) : ofName? format.name = some format := by
  cases format <;> decide

end Format

namespace Listing

structure Options where
  format : Format
  /-- Whether to show where each token starts. -/
  locations : Bool
  deriving DecidableEq, Repr

def kindHeading : String := "Token Type"
def valueHeading : String := "Value"
def locationHeading : String := "Location"

def kindWidth (tokens : List Token) : Nat := Text.widest (kindHeading :: tokens.map (·.kind.name))

def valueWidth (tokens : List Token) : Nat :=
  Text.widest (valueHeading :: tokens.map fun token => Text.flat token.text)

/-- A row of three cells in columns of these widths. The last cell is not filled up. -/
def tableRow (locations : Bool) (kindWidth valueWidth : Nat) (kind value location : String) : String :=
  Text.padded kindWidth kind ++ "  " ++
    if locations then Text.padded valueWidth value ++ "  " ++ location else value

def tableRows (locations : Bool) (kindWidth valueWidth : Nat) (tokens : List Token) : List String :=
  let row := tableRow locations kindWidth valueWidth
  row kindHeading valueHeading locationHeading ::
    row (Text.repeated '-' kindWidth) (Text.repeated '-' valueWidth)
      (Text.repeated '-' locationHeading.length) ::
    tokens.map fun token => row token.kind.name (Text.flat token.text) token.start.label

/-- Columns are as wide as their widest cell. Those that are filled up have widths to be asked for,
and one that is too wide keeps the first row already from being written. -/
def table (locations : Bool) (tokens : List Token) : Except Fault String := do
  let kindWidth ← Text.width? (kindWidth tokens)
  let valueWidth ← if locations then Text.width? (valueWidth tokens) else pure (valueWidth tokens)
  return String.join ((tableRows locations kindWidth valueWidth tokens).map (· ++ "\n"))

def plain (locations : Bool) (tokens : List Token) : String :=
  String.join (tokens.map fun token =>
    kindHeading ++ ": " ++ token.kind.name ++ ", " ++ valueHeading ++ ": " ++ Text.flat token.text ++
      (if locations then ", " ++ locationHeading ++ ": " ++ token.start.label else "") ++ "\n")

def document (locations : Bool) (tokens : List Token) : Json :=
  .array (tokens.map fun token => if locations then token.json else token.toLexeme.json)

def json (locations : Bool) (tokens : List Token) : String :=
  (document locations tokens).pretty ++ "\n"

def render (options : Options) (tokens : List Token) : Except Fault String :=
  match options.format with
  | .table => table options.locations tokens
  | .plain => .ok (plain options.locations tokens)
  | .json => .ok (json options.locations tokens)

/-- Table and lines show where tokens start; the JSON document gives the plain counts. -/
def render? (options : Options) (tokens : List Token) : Except Fault String := do
  let output ← render options tokens
  if options.locations && options.format != .json then
    let _ ← tokens.mapM fun token => token.start.label?
    return output
  else return output

/-- A column is filled up that has a text too wide for it. -/
def Wide (options : Options) (tokens : List Token) : Prop :=
  options.format = .table ∧ options.locations = true ∧
    ∃ token ∈ tokens, Text.widthLimit < (Text.flat token.text).length

instance (options : Options) (tokens : List Token) : Decidable (Wide options tokens) := by
  unfold Wide; infer_instance

theorem kindWidth_le (tokens : List Token) : kindWidth tokens ≤ Text.widthLimit := by
  have name (kind : Kind) : kind.name.length ≤ Text.widthLimit := by cases kind <;> decide
  refine Text.widest_le_iff.mpr (List.forall_mem_cons.mpr ⟨by decide, ?_⟩)
  exact List.forall_mem_map.mpr fun token _ => name token.kind

theorem valueWidth_le_iff {tokens : List Token} : valueWidth tokens ≤ Text.widthLimit ↔
    ∀ token ∈ tokens, (Text.flat token.text).length ≤ Text.widthLimit := by
  have heading : valueHeading.length ≤ Text.widthLimit := by decide
  rw [valueWidth, Text.widest_le_iff, List.forall_mem_cons, List.forall_mem_map]
  exact and_iff_right heading

theorem table_of_fits {locations : Bool} {tokens : List Token}
    (fits : locations = true → valueWidth tokens ≤ Text.widthLimit) : table locations tokens =
      .ok (String.join ((tableRows locations (kindWidth tokens) (valueWidth tokens) tokens).map
        (· ++ "\n"))) := by
  have kinds : Text.width? (kindWidth tokens) = .ok (kindWidth tokens) := if_pos (kindWidth_le tokens)
  cases locations with
  | false => simp [table,kinds,bind,Except.bind,pure,Except.pure]
  | true =>
    have values : Text.width? (valueWidth tokens) = .ok (valueWidth tokens) := if_pos (fits rfl)
    simp [table,kinds,values,bind,Except.bind,pure,Except.pure]

theorem table_of_wide {tokens : List Token} (wide : Text.widthLimit < valueWidth tokens) :
    table true tokens = .error .wideColumn := by
  have kinds : Text.width? (kindWidth tokens) = .ok (kindWidth tokens) := if_pos (kindWidth_le tokens)
  have values : Text.width? (valueWidth tokens) = .error .wideColumn := if_neg (Nat.not_le.mpr wide)
  simp [table,kinds,values,bind,Except.bind]

variable {options : Options} {tokens : List Token}

theorem wide_table_iff :
    Wide ⟨.table, true⟩ tokens ↔ Text.widthLimit < valueWidth tokens := by
  rw [← Nat.not_le, valueWidth_le_iff]
  simp [Wide]

theorem render_of_wide (wide : Wide options tokens) : render options tokens = .error .wideColumn := by
  obtain ⟨format, locations⟩ := options
  obtain ⟨rfl, rfl, _⟩ := id wide
  exact table_of_wide (wide_table_iff.mp wide)

theorem table_of_not_wide {locations : Bool} (fits : ¬ Wide ⟨.table, locations⟩ tokens) :
    table locations tokens =
      .ok (String.join ((tableRows locations (kindWidth tokens) (valueWidth tokens) tokens).map
        (· ++ "\n"))) := by
  apply table_of_fits
  rintro rfl
  rwa [wide_table_iff, Nat.not_lt] at fits

/-- Whatever is written as a table is its rows. -/
theorem eq_of_table {locations : Bool} {output : String} (written : table locations tokens = .ok output) :
    output = String.join ((tableRows locations (kindWidth tokens) (valueWidth tokens) tokens).map
      (· ++ "\n")) := by
  by_cases wide : Wide ⟨.table, locations⟩ tokens
  · cases written.symm.trans (render_of_wide wide)
  · exact Except.ok.inj (written.symm.trans (table_of_not_wide wide))

theorem exists_render (fits : ¬ Wide options tokens) : ∃ output, render options tokens = .ok output := by
  obtain ⟨format, locations⟩ := options
  cases format with
  | table => exact ⟨_, table_of_not_wide fits⟩
  | plain => exact ⟨_, rfl⟩
  | json => exact ⟨_, rfl⟩

end Listing

end TokenScan
