/-!
# Parts of texts
-/

namespace LintGloss.Text

/-- Whether the first text stands somewhere in the second. -/
def isPartOf (part : List Char) : List Char → Bool
  | [] => part.isEmpty
  | c :: rest => part.isPrefixOf (c :: rest) || isPartOf part rest

/-- **A part stands between two other parts.** -/
theorem isPartOf_iff {part : List Char} : ∀ {s : List Char}, isPartOf part s = true ↔ part <:+: s
  | [] => by simp [isPartOf]
  | c :: s => by
    rw [isPartOf, Bool.or_eq_true, List.isPrefixOf_iff_prefix, isPartOf_iff, List.infix_cons_iff]

end LintGloss.Text
