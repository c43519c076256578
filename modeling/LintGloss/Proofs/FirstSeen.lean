import Mathlib.Data.List.Basic
/-!
# Names as they are first seen

The names of a list without repetitions stand in the order in which each of them comes first, and so none of them stands
twice.
-/

namespace LintGloss

/-- The names of a list without repetitions, as they first stand there. -/
structure FirstSeen (names all : List String) : Prop where
  mem_iff : ∀ t, t ∈ names ↔ t ∈ all
  rising : names.Pairwise fun a b => all.idxOf a < all.idxOf b

/-- What passes a filter stands behind it in the order in which it stood before. -/
theorem idxOf_lt_of_filter {p : String → Bool} {a b : String} (ha : p a = true) (hb : p b = true) :
    ∀ {l : List String}, (l.filter p).idxOf a < (l.filter p).idxOf b → l.idxOf a < l.idxOf b
  | [], h => absurd h (Nat.lt_irrefl 0)
  | c :: l, h => by
    by_cases hca : c = a
    · subst hca
      have hcb : c ≠ b := by
        rintro rfl
        exact Nat.lt_irrefl _ h
      rw [List.idxOf_cons_self, List.idxOf_cons_ne l hcb]
      exact Nat.succ_pos _
    · have hcb : c ≠ b := by
        rintro rfl
        rw [List.filter_cons_of_pos hb, List.idxOf_cons_self] at h
        exact Nat.not_lt_zero _ h
      rw [List.idxOf_cons_ne l hca, List.idxOf_cons_ne l hcb]
      refine Nat.succ_lt_succ (idxOf_lt_of_filter ha hb ?_)
      by_cases hc : p c = true
      · rw [List.filter_cons_of_pos hc, List.idxOf_cons_ne _ hca, List.idxOf_cons_ne _ hcb] at h
        exact Nat.lt_of_succ_lt_succ h
      · rwa [List.filter_cons_of_neg hc] at h

theorem rising_eraseDups : ∀ l : List String, l.eraseDups.Pairwise fun a b => l.idxOf a < l.idxOf b
  | [] => by simp
  | a :: l => by
    have ih := rising_eraseDups (l.filter fun b => !b == a)
    have hne : ∀ b ∈ (l.filter fun b => !b == a).eraseDups, a ≠ b := by
      intro b hb
      rw [List.mem_eraseDups, List.mem_filter] at hb
      rintro rfl
      simp at hb
    rw [List.eraseDups_cons, List.pairwise_cons]
    constructor
    · intro b hb
      rw [List.idxOf_cons_self, List.idxOf_cons_ne l (hne b hb)]
      exact Nat.succ_pos _
    · refine ih.imp_of_mem fun {b c} hb hc hlt => ?_
      have hpass : ∀ b ∈ (l.filter fun b => !b == a).eraseDups, (!b == a) = true := fun b hb =>
        (List.mem_filter.1 (List.mem_eraseDups.1 hb)).2
      rw [List.idxOf_cons_ne l (hne b hb), List.idxOf_cons_ne l (hne c hc)]
      exact Nat.succ_lt_succ (idxOf_lt_of_filter (hpass b hb) (hpass c hc) hlt)
termination_by l => l.length
decreasing_by exact Nat.lt_succ_of_le (List.length_filter_le _ l)

theorem firstSeen_eraseDups (l : List String) : FirstSeen l.eraseDups l :=
  ⟨fun _ => List.mem_eraseDups, rising_eraseDups l⟩

theorem FirstSeen.nodup {names all : List String} (h : FirstSeen names all) : names.Nodup := by
  refine List.Pairwise.imp ?_ h.rising
  rintro a _ hlt rfl
  exact Nat.lt_irrefl _ hlt

end LintGloss
