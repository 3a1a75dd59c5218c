/-! Blank characters and the blank edges of a text. `isBlank` is the Unicode property
White_Space, wider than the ASCII blanks of `Char.isWhitespace`; everything that skips,
trims or asks for emptiness goes through it. -/
namespace TokenScan.Text

/-- First and last code point of each run of White_Space. -/
def blankRuns : List (Nat × Nat) := [
  (0x0009,0x000D), (0x0020,0x0020), (0x0085,0x0085), (0x00A0,0x00A0), (0x1680,0x1680),
  (0x2000,0x200A), (0x2028,0x2029), (0x202F,0x202F), (0x205F,0x205F), (0x3000,0x3000)]

def isBlank (c : Char) : Bool :=
  blankRuns.any fun run => run.1 ≤ c.toNat && c.toNat ≤ run.2

/-- A text of blanks only; the empty text counts. -/
def allBlank (text : String) : Bool := text.toList.all isBlank

def dropBlanks (chars : List Char) : List Char := chars.dropWhile isBlank

def trim (text : String) : String :=
  String.ofList (dropBlanks (dropBlanks text.toList).reverse).reverse

theorem dropBlanks_eq_nil_iff (chars : List Char) :
    dropBlanks chars = [] ↔ chars.all isBlank = true := by
  induction chars with
  | nil => simp [dropBlanks]
  | cons c rest ih =>
    by_cases h : isBlank c <;> simp_all [dropBlanks]

end TokenScan.Text
