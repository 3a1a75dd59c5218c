/-! The reserved words. A word is reserved only in its exact spelling, so `Int` and `intX`
are ordinary identifiers. -/
namespace TokenScan

/-- In the order in which the words are listed. -/
inductive Keyword where
  | int | float | double | char | void
  | «if» | «else» | «while» | «for» | «return» | «break» | «continue» | «switch» | «case» | «default»
  | struct | «class» | «public» | «private» | «protected»
  | «try» | «catch» | «throw» | const | static | «true» | «false»
  deriving DecidableEq, Repr

namespace Keyword

def all : List Keyword := [
  .int, .float, .double, .char, .void,
  .if, .else, .while, .for, .return, .break, .continue, .switch, .case, .default,
  .struct, .class, .public, .private, .protected,
  .try, .catch, .throw, .const, .static, .true, .false]

def spelling : Keyword → String
  | .int => "int"
  | .float => "float"
  | .double => "double"
  | .char => "char"
  | .void => "void"
  | .if => "if"
  | .else => "else"
  | .while => "while"
  | .for => "for"
  | .return => "return"
  | .break => "break"
  | .continue => "continue"
  | .switch => "switch"
  | .case => "case"
  | .default => "default"
  | .struct => "struct"
  | .class => "class"
  | .public => "public"
  | .private => "private"
  | .protected => "protected"
  | .try => "try"
  | .catch => "catch"
  | .throw => "throw"
  | .const => "const"
  | .static => "static"
  | .true => "true"
  | .false => "false"

/-- The spelling with a capital, as in a heading. -/
def title (keyword : Keyword) : String := keyword.spelling.capitalize

/-- Place in the list of all keywords, from zero. -/
def index (keyword : Keyword) : Nat := all.idxOf keyword

instance : Ord Keyword where
  compare a b := compare a.index b.index

def ofSpelling? (text : String) : Option Keyword := all.find? fun keyword => keyword.spelling == text

theorem mem_all (keyword : Keyword) : keyword ∈ all := by
  cases keyword <;> decide

@[simp] theorem ofSpelling?_spelling (keyword : Keyword) :
    ofSpelling? keyword.spelling = some keyword := by
  cases keyword <;> decide

theorem ofSpelling?_eq_some_iff {text : String} {keyword : Keyword} :
    ofSpelling? text = some keyword ↔ text = keyword.spelling := by
  constructor
  · intro found
    unfold ofSpelling? at found
    have same := List.find?_some found
    exact (eq_of_beq same).symm
  · rintro rfl
    exact ofSpelling?_spelling keyword

end Keyword

end TokenScan
