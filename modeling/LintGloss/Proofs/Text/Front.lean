import Mathlib.Data.List.TakeDrop
/-!
# Fronts of texts

A text is cut in front of the first character that is not of a kind, and there is one place only to cut it
(`span_eq_iff`, `front_unique`).
-/

namespace LintGloss.Text

variable {α : Type} {p : α → Bool} {front front' rest rest' s : List α}

theorem span_eq_iff : s.span p = (front, rest) ↔
    s = front ++ rest ∧ (∀ x ∈ front, p x = true) ∧ ∀ x ∈ rest.head?, p x = false := by
  rw [List.span_eq_takeWhile_dropWhile]
  constructor
  · intro h
    obtain ⟨rfl, rfl⟩ := Prod.mk.inj h
    refine ⟨List.takeWhile_append_dropWhile.symm, List.all_eq_true.1 List.all_takeWhile, fun x hx => ?_⟩
    have hstop := List.head?_dropWhile_not p s
    rw [Option.mem_def.1 hx] at hstop
    exact hstop
  · rintro ⟨rfl, hfront, hrest⟩
    have hcut : rest.takeWhile p = [] ∧ rest.dropWhile p = rest := by
      cases rest with
      | nil => exact ⟨rfl, rfl⟩
      | cons x rest =>
        have hx : ¬ p x = true := by simp [hrest x rfl]
        exact ⟨List.takeWhile_cons_of_neg hx, List.dropWhile_cons_of_neg hx⟩
    rw [List.takeWhile_append_of_pos hfront, List.dropWhile_append_of_pos hfront, hcut.1, hcut.2, List.append_nil]

theorem nonempty_span_eq_some_iff [DecidableEq α] :
    (if (s.span p).1 = [] then none else some (s.span p)) = some (front, rest) ↔
      front ≠ [] ∧ s = front ++ rest ∧ (∀ x ∈ front, p x = true) ∧ ∀ x ∈ rest.head?, p x = false := by
  rw [← span_eq_iff, Option.ite_none_left_eq_some, Option.some.injEq]
  constructor
  · rintro ⟨hne, hcut⟩
    rw [hcut] at hne
    exact ⟨hne, hcut⟩
  · rintro ⟨hne, hcut⟩
    rw [hcut]
    exact ⟨hne, rfl⟩

/-- **There is one place to cut a text.** -/
theorem front_unique (hfront : ∀ x ∈ front, p x = true) (hrest : ∀ x ∈ rest.head?, p x = false)
    (hfront' : ∀ x ∈ front', p x = true) (hrest' : ∀ x ∈ rest'.head?, p x = false)
    (h : front ++ rest = front' ++ rest') : front = front' ∧ rest = rest' := by
  have hcut : (front ++ rest).span p = (front, rest) := span_eq_iff.2 ⟨rfl, hfront, hrest⟩
  have hcut' : (front ++ rest).span p = (front', rest') := span_eq_iff.2 ⟨h, hfront', hrest'⟩
  exact Prod.mk.inj (hcut.symm.trans hcut')

theorem dropWhile_append_of_front (hfront : ∀ x ∈ front, p x = true) (hrest : ∀ x ∈ rest.head?, p x = false) :
    (front ++ rest).dropWhile p = rest := by
  have hcut : (front ++ rest).span p = (front, rest) := span_eq_iff.2 ⟨rfl, hfront, hrest⟩
  rw [List.span_eq_takeWhile_dropWhile] at hcut
  exact (Prod.mk.inj hcut).2

end LintGloss.Text
