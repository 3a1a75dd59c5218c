/-! Text with styles for terminals. What is said is a list of spans; whether it is coloured is
decided when the spans are rendered, so that both renderings have the same words. -/
namespace TokenScan

inductive Style where
  | plain | bold | red | redBold | blueBold
  /-- Headings of the help pages, bold and underlined. -/
  | heading
  deriving DecidableEq, Repr

def Style.opening : Style → String
  | .plain => ""
  | .bold => "\x1b[1m"
  | .red => "\x1b[31m"
  | .redBold => "\x1b[1;31m"
  | .blueBold => "\x1b[1;34m"
  | .heading => "\x1b[1m\x1b[4m"

def reset : List Char := ['\x1b', '[', '0', 'm']

/-- A text may itself switch all styles off; after each place where it does, a style is opened
again. -/
def reopened (opening : List Char) : List Char → List Char
  | '\x1b' :: '[' :: '0' :: 'm' :: rest => reset ++ opening ++ reopened opening rest
  | c :: rest => c :: reopened opening rest
  | [] => []

theorem reopened_eq_self (opening text : List Char) (plain : '\x1b' ∉ text) :
    reopened opening text = text := by
  fun_induction reopened opening text with
  | case1 => simp at plain
  | case2 c rest _ ih => rw [ih fun h => plain (List.mem_cons_of_mem c h)]
  | case3 => rfl

structure Span where
  style : Style
  text : String
  deriving DecidableEq, Repr

/-- A coloured span is wrapped even when it is empty, and keeps its style to its end. -/
def Span.render (coloured : Bool) (span : Span) : String :=
  if coloured && span.style != .plain then
    let opening := span.style.opening.toList
    String.ofList (opening ++ reopened opening span.text.toList ++ reset)
  else span.text

abbrev Styled := List Span

namespace Styled

instance : Coe String Styled where
  coe text := [⟨.plain, text⟩]

def of (style : Style) (text : String) : Styled := [⟨style, text⟩]

def render (coloured : Bool) (styled : Styled) : String :=
  String.join (styled.map (Span.render coloured))

@[simp] theorem render_nil (coloured : Bool) : render coloured [] = "" := rfl

@[simp] theorem render_cons (coloured : Bool) (span : Span) (styled : Styled) :
    render coloured (span :: styled) = span.render coloured ++ render coloured styled := by
  simp [render]

@[simp] theorem render_append (coloured : Bool) (first second : Styled) :
    render coloured (first ++ second) = render coloured first ++ render coloured second := by
  simp [render]

@[simp] theorem render_of (coloured : Bool) (style : Style) (text : String) :
    render coloured (of style text) = Span.render coloured ⟨style, text⟩ := by
  simp [of]

@[simp] theorem render_plain (coloured : Bool) (text : String) :
    render coloured [⟨.plain, text⟩] = text := by
  simp [Span.render]

end Styled

end TokenScan
