/-! The lines of a text. A line ends at a line feed, which it does not contain; one carriage
return directly before that line feed belongs to the ending too. What follows the last line
feed is a line only if it is not empty, and keeps its carriage returns. -/
namespace TokenScan.Text

def lines : List Char → List (List Char)
  | [] => []
  | '\n' :: rest => [] :: lines rest
  | '\r' :: '\n' :: rest => [] :: lines rest
  | c :: rest =>
    match lines rest with
    | [] => [[c]]
    | line :: more => (c :: line) :: more

example : lines "a\r\nb\r\rc\n\nd\r".toList =
    ["a".toList, "b\r\rc".toList, [], "d\r".toList] := by decide

theorem newline_not_mem_of_mem_lines (chars line : List Char) (member : line ∈ lines chars) :
    '\n' ∉ line := by
  fun_induction lines chars generalizing line with
  | case1 => simp at member
  | case2 rest ih | case3 rest ih =>
    rcases List.mem_cons.mp member with rfl | member
    · simp
    · exact ih line member
  | case4 c rest notFeed _ empty ih =>
    simp only [List.mem_singleton] at member
    subst member
    simpa [eq_comm] using notFeed
  | case5 c rest notFeed _ head more found ih =>
    rcases List.mem_cons.mp member with rfl | member
    · have := ih head (by simp [found])
      simp only [List.mem_cons, not_or]
      exact ⟨fun h => notFeed h.symm, this⟩
    · exact ih line (by simp [found,member])

end TokenScan.Text
