/-!
# Lines

A line ends with a line feed, and a carriage return right before that line feed
belongs to the ending.  A last line need not be ended; it is there only if it
holds a character, and a carriage return at its end is part of it.
-/

namespace LintGloss.Text

/-- The lines of a text, without their endings. -/
def lines : List Char → List (List Char)
  | [] => []
  | '\n' :: rest => [] :: lines rest
  | '\r' :: '\n' :: rest => [] :: lines rest
  | c :: rest =>
    match lines rest with
    | [] => [[c]]
    | line :: more => (c :: line) :: more

theorem lines_eq_nil_iff {s : List Char} : lines s = [] ↔ s = [] := by
  fun_cases lines s <;> simp_all

end LintGloss.Text
