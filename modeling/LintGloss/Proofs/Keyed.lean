import LintGloss.Keyed
/-!
# What a keyed list gives for a key

The value of a key is that of the last entry with it, and there is one exactly if some entry has the key
(`lastOf?_eq_some_iff`, `lastOf?_eq_none_iff`).
-/

namespace LintGloss

variable {α β : Type}

theorem lastOf?_cons_of_ne {k key : String} (h : k ≠ key) (a : α) (xs : List (String × α)) :
    lastOf? key ((k, a) :: xs) = lastOf? key xs := by simp [lastOf?, h]

theorem lastOf?_eq_none_iff {key : String} : ∀ {xs : List (String × α)},
    lastOf? key xs = none ↔ ∀ x ∈ xs, x.1 ≠ key
  | [] => by simp
  | (k, a) :: xs => by
    have ih : lastOf? key xs = none ↔ ∀ x ∈ xs, x.1 ≠ key := lastOf?_eq_none_iff
    rw [lastOf?, List.forall_mem_cons, ← ih]
    by_cases hk : k = key
    · simp [hk]
    · cases h : lastOf? key xs <;> simp [hk]

/-- **The last entry with a key counts.** -/
theorem lastOf?_eq_some_iff {key : String} {a : α} {xs : List (String × α)} :
    lastOf? key xs = some a ↔ ∃ before after, xs = before ++ (key, a) :: after ∧ ∀ x ∈ after, x.1 ≠ key := by
  constructor
  · intro h
    induction xs with
    | nil => cases h
    | cons x xs ih =>
      obtain ⟨k, b⟩ := x
      rw [lastOf?] at h
      cases hxs : lastOf? key xs with
      | some c =>
        rw [hxs] at h
        obtain ⟨before, after, rfl, hafter⟩ := ih (hxs.trans h)
        exact ⟨(k, b) :: before, after, rfl, hafter⟩
      | none =>
        rw [hxs] at h
        obtain ⟨rfl, hb⟩ := Option.ite_none_right_eq_some.1 h
        exact ⟨[], xs, by rw [Option.some.inj hb]; rfl, lastOf?_eq_none_iff.1 hxs⟩
  · rintro ⟨before, after, rfl, hafter⟩
    rw [lastOf?_append, lastOf?, lastOf?_eq_none_iff.2 hafter]
    simp

/-- An entry makes no difference in front of another with its key. -/
theorem lastOf?_cons_of_mem {k : String} {b : α} {xs : List (String × α)} (h : (k, b) ∈ xs) (key : String) (a : α) :
    lastOf? key ((k, a) :: xs) = lastOf? key xs := by
  by_cases hk : k = key
  · cases hlast : lastOf? key xs with
    | some c => simp [lastOf?, hlast]
    | none => exact absurd hk (lastOf?_eq_none_iff.1 hlast _ h)
  · exact lastOf?_cons_of_ne hk a xs

/-- Every value counts for its key exactly if one key never has two. -/
theorem forall_lastOf?_eq_some_iff {xs : List (String × α)} :
    (∀ x ∈ xs, lastOf? x.1 xs = some x.2) ↔ ∀ x ∈ xs, ∀ y ∈ xs, x.1 = y.1 → x.2 = y.2 := by
  constructor
  · intro h x hx y hy hxy
    refine Option.some.inj ?_
    rw [← h x hx, ← h y hy, hxy]
  · intro h x hx
    cases hlast : lastOf? x.1 xs with
    | none => exact absurd rfl (lastOf?_eq_none_iff.1 hlast x hx)
    | some a =>
      obtain ⟨before, after, hsplit, -⟩ := lastOf?_eq_some_iff.1 hlast
      have hmem : (x.1, a) ∈ xs := by simp [hsplit]
      rw [h x hx _ hmem rfl]

theorem lastOf?_map (f : α → β) (key : String) : ∀ xs : List (String × α),
    lastOf? key (xs.map fun x => (x.1, f x.2)) = (lastOf? key xs).map f
  | [] => rfl
  | (k, a) :: xs => by
    rw [List.map_cons, lastOf?, lastOf?, lastOf?_map f key xs]
    cases lastOf? key xs with
    | some b => rfl
    | none => by_cases hk : k = key <;> simp [hk]

/-- Entries without the key can be left out. -/
theorem lastOf?_map_filter {key : String} (f : β → String × α) (p : β → Bool) : ∀ {l : List β},
    (∀ b ∈ l, p b = false → (f b).1 ≠ key) → lastOf? key ((l.filter p).map f) = lastOf? key (l.map f)
  | [], _ => rfl
  | b :: l, h => by
    have ih := lastOf?_map_filter f p (fun b' hb' => h b' (List.mem_cons_of_mem b hb'))
    rw [List.map_cons, lastOf?]
    cases hp : p b with
    | true => rw [List.filter_cons_of_pos hp, List.map_cons, lastOf?, ih]
    | false =>
      rw [List.filter_cons_of_neg (by simp [hp]), ih, if_neg (h b List.mem_cons_self hp)]
      cases lastOf? key (l.map f) <;> rfl

end LintGloss
