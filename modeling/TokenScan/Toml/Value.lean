import TokenScan.Decimal.Binary64
import TokenScan.Toml.Moment

/-! The values of a configuration document. -/
namespace TokenScan.Toml

inductive Value where
  | text (value : String)
  | integer (value : Int)
  | float (value : Decimal.Binary64)
  | boolean (value : Bool)
  | moment (value : Moment)
  | array (items : List Value)
  /-- Entries in the order in which the document opens them, no key twice. -/
  | table (entries : List (String × Value))
  /-- An array of tables, written as one header for each of them. -/
  | elements (tables : List (List (String × Value)))

abbrev Table := List (String × Value)

namespace Value

mutual

/-- Equality that can be computed. Items, entries and tables are compared one by one. -/
def same : Value → Value → Bool
  | .text one, .text other => one == other
  | .integer one, .integer other => one == other
  | .float one, .float other => one == other
  | .boolean one, .boolean other => one == other
  | .moment one, .moment other => one == other
  | .array one, .array other => sameItems one other
  | .table one, .table other => sameEntries one other
  | .elements one, .elements other => sameTables one other
  | _, _ => false

def sameItems : List Value → List Value → Bool
  | [], [] => true
  | one :: ones, other :: others => same one other && sameItems ones others
  | _, _ => false

def sameEntries : List (String × Value) → List (String × Value) → Bool
  | [], [] => true
  | (key, one) :: ones, (key', other) :: others =>
    key == key' && same one other && sameEntries ones others
  | _, _ => false

def sameTables : List (List (String × Value)) → List (List (String × Value)) → Bool
  | [], [] => true
  | one :: ones, other :: others => sameEntries one other && sameTables ones others
  | _, _ => false

end

mutual

theorem same_iff : (one other : Value) → (same one other = true ↔ one = other)
  | .text _, other | .integer _, other | .float _, other | .boolean _, other | .moment _, other => by
    cases other <;> simp [same]
  | .array items, other => by cases other <;> simp [same, sameItems_iff items]
  | .table entries, other => by cases other <;> simp [same, sameEntries_iff entries]
  | .elements tables, other => by cases other <;> simp [same, sameTables_iff tables]

theorem sameItems_iff : (one other : List Value) → (sameItems one other = true ↔ one = other)
  | [], other => by cases other <;> simp [sameItems]
  | item :: items, other => by cases other <;> simp [sameItems, same_iff item, sameItems_iff items]

theorem sameEntries_iff : (one other : List (String × Value)) →
    (sameEntries one other = true ↔ one = other)
  | [], other => by cases other <;> simp [sameEntries]
  | (key, value) :: entries, [] => by simp [sameEntries]
  | (key, value) :: entries, (key', other) :: others => by
    simp [sameEntries, same_iff value, sameEntries_iff entries]

theorem sameTables_iff : (one other : List (List (String × Value))) →
    (sameTables one other = true ↔ one = other)
  | [], other => by cases other <;> simp [sameTables]
  | entries :: tables, other => by
    cases other <;> simp [sameTables, sameEntries_iff entries, sameTables_iff tables]

end

instance : DecidableEq Value := fun one other => decidable_of_iff _ (same_iff one other)

end Value

end TokenScan.Toml
