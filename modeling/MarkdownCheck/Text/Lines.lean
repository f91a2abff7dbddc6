import MarkdownCheck.Text.Basic

/-!
# Lines of a text

A line ends at a carriage return followed by a line feed, at a carriage return alone or at a line
feed alone, and at no other character. What follows the last line end is a line too, so there is
always at least one.
-/

namespace MarkdownCheck

namespace Text

/-- The lines of a text, without their line ends. -/
def lines : Text → List Text
  | [] => [[]]
  | '\r' :: '\n' :: rest => [] :: lines rest
  | c :: rest =>
    if c = '\r' ∨ c = '\n' then [] :: lines rest else (lines rest).modifyHead (c :: ·)

theorem lines_ne_nil (t : Text) : t.lines ≠ [] := by
  fun_induction lines t with
  | case1 => simp
  | case2 => simp
  | case3 => simp
  | case4 c rest _ _ ih => simpa using ih

end Text

end MarkdownCheck
