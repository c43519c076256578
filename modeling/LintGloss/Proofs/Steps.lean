import Mathlib.Data.List.Forall2
/-!
# Steps that can fail

A computation that can fail is taken apart into the steps that it is made of: it succeeds exactly if each of them does,
and otherwise it fails as the first one does that fails (`Blames`).
-/

namespace LintGloss

variable {ε α β γ : Type}

theorem bind_eq_ok_iff {x : Except ε α} {f : α → Except ε β} {b : β} :
    (x >>= f) = .ok b ↔ ∃ a, x = .ok a ∧ f a = .ok b := by
  cases x <;> simp [bind, Except.bind]

theorem eq_ok_of_toOption {x : Except ε α} {a : α} (h : x.toOption = some a) : x = .ok a := by
  cases x with
  | ok b => rw [Option.some.inj h]
  | error e => cases h

/-- A fold of steps succeeds alike where each of the steps does. -/
theorem foldlM_of_steps {f g : β → α → Except ε β} (hfg : ∀ b a b', f b a = .ok b' → g b a = .ok b') :
    ∀ {as : List α} {b c : β}, as.foldlM f b = .ok c → as.foldlM g b = .ok c
  | [], _, _, h => h
  | a :: as, b, c, h => by
    rw [List.foldlM_cons] at h ⊢
    obtain ⟨b', hb, h⟩ := bind_eq_ok_iff.1 h
    exact bind_eq_ok_iff.2 ⟨b', hfg b a b' hb, foldlM_of_steps hfg h⟩

theorem forall₂_of_mapM {f : α → Except ε β} : ∀ {xs : List α} {ys : List β},
    xs.mapM f = .ok ys → List.Forall₂ (fun x y => f x = .ok y) xs ys
  | [], ys, h => by rw [← Except.ok.inj h]; exact .nil
  | x :: xs, ys, h => by
    rw [List.mapM_cons] at h
    obtain ⟨y, hy, h⟩ := bind_eq_ok_iff.1 h
    obtain ⟨ys', hys, h⟩ := bind_eq_ok_iff.1 h
    rw [← Except.ok.inj h]
    exact .cons hy (forall₂_of_mapM hys)

/-- What can be told from each item or from what it gives is the same for the lists. -/
theorem map_eq_map_of_mapM {f : α → Except ε β} {g : α → γ} {k : β → γ} (hgk : ∀ x y, f x = .ok y → g x = k y)
    {xs : List α} {ys : List β} (h : xs.mapM f = .ok ys) : xs.map g = ys.map k := by
  have heq : List.Forall₂ Eq (xs.map g) (ys.map k) :=
    List.forall₂_map_left_iff.2 (List.forall₂_map_right_iff.2 ((forall₂_of_mapM h).imp hgk))
  rwa [List.forall₂_eq_eq_eq] at heq

theorem exists_mem_of_mapM {f : α → Except ε β} {xs : List α} {ys : List β} (h : xs.mapM f = .ok ys) {y : β}
    (hy : y ∈ ys) : ∃ x ∈ xs, f x = .ok y := by
  have hmap : xs.map f = ys.map .ok := map_eq_map_of_mapM (fun _ _ hxy => hxy) h
  have hmem : Except.ok y ∈ xs.map f := by
    rw [hmap]
    exact List.mem_map_of_mem hy
  obtain ⟨x, hx, hxy⟩ := List.mem_map.1 hmem
  exact ⟨x, hx, hxy⟩

/-! ## The first fault -/

/-- Whether a computation fails with the first of some faults, and succeeds if there is none. -/
inductive Blames : Except ε α → List ε → Prop
  | ok (a : α) : Blames (.ok a) []
  | error (e : ε) (rest : List ε) : Blames (.error e) (e :: rest)

namespace Blames

variable {x : Except ε α} {faults : List ε}

theorem exists_ok_iff (h : Blames x faults) : (∃ a, x = .ok a) ↔ faults = [] := by
  cases h <;> simp

theorem eq_error_iff (h : Blames x faults) {e : ε} : x = .error e ↔ faults.head? = some e := by
  cases h <;> simp

theorem bind {f : α → Except ε β} {later : List ε} (hx : Blames x faults) (hf : ∀ a, x = .ok a → Blames (f a) later) :
    Blames (x >>= f) (faults ++ later) := by
  cases hx with
  | ok a => exact hf a rfl
  | error e rest => exact .error e _

theorem bind_ok {f : α → Except ε β} (hx : Blames x faults) (hf : ∀ a, ∃ b, f a = .ok b) : Blames (x >>= f) faults := by
  rw [← List.append_nil faults]
  refine hx.bind fun a _ => ?_
  obtain ⟨b, hb⟩ := hf a
  rw [hb]
  exact .ok b

theorem map (f : α → β) (hx : Blames x faults) : Blames (x.map f) faults := by
  cases hx with
  | ok a => exact .ok _
  | error e rest => exact .error e rest

theorem mapM {f : α → Except ε β} {g : α → List ε} (hf : ∀ a, Blames (f a) (g a)) : ∀ l : List α,
    Blames (l.mapM f) (l.flatMap g)
  | [] => .ok _
  | a :: l => by
    rw [List.mapM_cons, List.flatMap_cons]
    exact (hf a).bind fun b _ => (mapM hf l).bind_ok fun _ => ⟨_, rfl⟩

end Blames

end LintGloss
