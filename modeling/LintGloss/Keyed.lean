/-!
# Keyed lists

A list of entries with text keys, in which a later entry counts for more than an
earlier one with the same key.
-/

namespace LintGloss

/-- The value that counts for a key: that of the last entry with it. -/
def lastOf? {α : Type} (key : String) : List (String × α) → Option α
  | [] => none
  | (k, a) :: rest => lastOf? key rest <|> if k = key then some a else none

@[simp] theorem lastOf?_nil {α : Type} (key : String) :
    lastOf? key ([] : List (String × α)) = none := rfl

theorem lastOf?_append {α : Type} (key : String) (xs ys : List (String × α)) :
    lastOf? key (xs ++ ys) = (lastOf? key ys <|> lastOf? key xs) := by
  induction xs with
  | nil => cases h : lastOf? key ys <;> simp [lastOf?, h]
  | cons x xs ih =>
    obtain ⟨k, a⟩ := x
    cases h : lastOf? key ys <;> simp [lastOf?, ih, h]

end LintGloss
