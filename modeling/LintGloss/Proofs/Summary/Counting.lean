import LintGloss.Proofs.FirstSeen
import LintGloss.Proofs.Summary
import Mathlib.Data.Finset.Card
import Mathlib.Data.Finset.Lattice.Lemmas
import Mathlib.Data.String.Basic
/-!
# Counting violations

The counts by tool are those of a pass over the violations that adds one for each of them (`foldl_tally`).  A summary
does not depend on the order of the violations, and the one of two lists together can be told from those of the two but
for the files that they have in common (`counts_exactly`).
-/

namespace LintGloss.Summary

/-! ## Counting in one pass -/

/-- Adds one to the count of a tool, or begins its count, in a table in the order of the names. -/
def tally (t : Tool) : List (Tool × Nat) → List (Tool × Nat)
  | [] => [(t, 1)]
  | (u, n) :: rest =>
    if u = t then (u, n + 1) :: rest
    else if t.name < u.name then (t, 1) :: (u, n) :: rest
    else (u, n) :: tally t rest

/-- The table of some tools, without those that have nothing to count. -/
def table (f : Tool → Nat) (ts : List Tool) : List (Tool × Nat) := (ts.filter (0 < f ·)).map fun t => (t, f t)

variable {f g : Tool → Nat} {t u : Tool} {ts : List Tool}

theorem table_cons_of_pos (h : 0 < f u) : table f (u :: ts) = (u, f u) :: table f ts := by
  rw [table, List.filter_cons_of_pos (by simpa using h)]
  rfl

theorem table_cons_of_zero (h : f u = 0) : table f (u :: ts) = table f ts := by
  rw [table, List.filter_cons_of_neg (by simp [h])]
  rfl

theorem table_congr (h : ∀ u ∈ ts, f u = g u) : table f ts = table g ts := by
  induction ts with
  | nil => rfl
  | cons u ts ih =>
    obtain ⟨hu, hts⟩ := List.forall_mem_cons.1 h
    by_cases hpos : 0 < f u
    · rw [table_cons_of_pos hpos, table_cons_of_pos (hu ▸ hpos), hu, ih hts]
    · rw [table_cons_of_zero (by omega), table_cons_of_zero (by omega), ih hts]

theorem tally_of_lt {m : List (Tool × Nat)} (h : ∀ e ∈ m, t.name < e.1.name) : tally t m = (t, 1) :: m := by
  cases m with
  | nil => rfl
  | cons e m =>
    have hlt : t.name < e.1.name := h e List.mem_cons_self
    have hne : e.1 ≠ t := fun heq => lt_irrefl _ (heq ▸ hlt)
    rw [tally, if_neg hne, if_pos hlt]

/-- One more for a tool is one more in its count, and no other count changes. -/
theorem tally_table (ht : g t = f t + 1) (hother : ∀ u, u ≠ t → g u = f u)
    (hsorted : ts.Pairwise (·.name < ·.name)) (hmem : t ∈ ts) : tally t (table f ts) = table g ts := by
  induction ts with
  | nil => cases hmem
  | cons u ts ih =>
    obtain ⟨hfirst, hsorted⟩ := List.pairwise_cons.1 hsorted
    by_cases hut : u = t
    · subst hut
      have hrest : table f ts = table g ts :=
        table_congr fun v hv => (hother v fun heq => lt_irrefl _ (heq ▸ hfirst v hv)).symm
      rw [table_cons_of_pos (f := g) (by omega), ht, ← hrest]
      by_cases hpos : 0 < f u
      · rw [table_cons_of_pos hpos, tally, if_pos rfl]
      · have hzero : f u = 0 := by omega
        rw [table_cons_of_zero hzero, hzero]
        refine tally_of_lt fun e he => ?_
        obtain ⟨v, hv, rfl⟩ := List.mem_map.1 he
        exact hfirst v (List.mem_filter.1 hv).1
    · have hmem : t ∈ ts := (List.mem_cons.1 hmem).resolve_left (Ne.symm hut)
      have hlt : ¬ t.name < u.name := lt_asymm (hfirst t hmem)
      have hu : g u = f u := hother u hut
      by_cases hpos : 0 < f u
      · rw [table_cons_of_pos hpos, tally, if_neg hut, if_neg hlt, ih hsorted hmem, table_cons_of_pos (hu ▸ hpos), hu]
      · rw [table_cons_of_zero (by omega), table_cons_of_zero (by omega), ih hsorted hmem]

theorem sorted_alphabetic : Tool.alphabetic.Pairwise (·.name < ·.name) := by decide

theorem byTool_concat (gs : List Glossed) (x : Glossed) :
    (ofGlossed (gs ++ [x])).byTool = tally x.violation.tool (ofGlossed gs).byTool := by
  rw [byTool_ofGlossed, byTool_ofGlossed]
  refine (tally_table ?_ (fun u hu => ?_) sorted_alphabetic (mem_alphabetic _)).symm
  · simp [countOf]
  · simp [countOf, Ne.symm hu]

/-- **A pass over the violations, adding one for each**, goes on from the counts of those before. -/
theorem foldl_tally (before gs : List Glossed) :
    gs.foldl (fun table x => tally x.violation.tool table) (ofGlossed before).byTool =
      (ofGlossed (before ++ gs)).byTool := by
  induction gs generalizing before with
  | nil => rw [List.append_nil]; rfl
  | cons x gs ih => rw [List.foldl_cons, ← byTool_concat, ih, List.append_assoc]; rfl

/-! ## Files -/

/-- The different files. -/
def filesOf (gs : List Glossed) : Finset String := (gs.map (·.violation.file)).toFinset

theorem filesOf_append (gs hs : List Glossed) : filesOf (gs ++ hs) = filesOf gs ∪ filesOf hs := by
  rw [filesOf, List.map_append, List.toFinset_append]
  rfl

theorem files_ofGlossed (gs : List Glossed) : (ofGlossed gs).files = (filesOf gs).card := by
  have hsame : (gs.map (·.violation.file)).eraseDups.toFinset = filesOf gs := by
    ext file
    rw [filesOf, List.mem_toFinset, List.mem_toFinset, List.mem_eraseDups]
  rw [← hsame, List.toFinset_card_of_nodup (firstSeen_eraseDups _).nodup]
  rfl

theorem files_le_total (gs : List Glossed) : (ofGlossed gs).files ≤ (ofGlossed gs).total := by
  have hcard : (filesOf gs).card ≤ (gs.map (·.violation.file)).length := List.toFinset_card_le _
  rwa [← files_ofGlossed, List.length_map] at hcard

theorem files_eq_zero_iff (gs : List Glossed) : (ofGlossed gs).files = 0 ↔ (ofGlossed gs).total = 0 := by
  rw [files_ofGlossed, Finset.card_eq_zero, filesOf, List.toFinset_eq_empty_iff, List.map_eq_nil_iff]
  exact List.length_eq_zero_iff.symm

/-! ## What a summary counts -/

theorem mem_byTool_iff {gs : List Glossed} {n : Nat} :
    (t, n) ∈ (ofGlossed gs).byTool ↔ (∃ x ∈ gs, x.violation.tool = t) ∧ n = (gs.map (·.violation.tool)).count t := by
  have hcount : (gs.map (·.violation.tool)).count t = countOf t gs := by
    rw [List.count, List.countP_map]
    rfl
  have hpos : (∃ x ∈ gs, x.violation.tool = t) ↔ 0 < countOf t gs := by simp [countOf, List.countP_pos_iff]
  rw [byTool_ofGlossed, List.mem_map, hcount, hpos]
  constructor
  · rintro ⟨u, hu, heq⟩
    obtain ⟨rfl, rfl⟩ := Prod.mk.inj heq
    exact ⟨by simpa using (List.mem_filter.1 hu).2, rfl⟩
  · rintro ⟨hpos, rfl⟩
    exact ⟨t, List.mem_filter.2 ⟨mem_alphabetic t, by simpa using hpos⟩, rfl⟩

theorem nodup_tools (gs : List Glossed) : ((ofGlossed gs).byTool.map (·.1)).Nodup := by
  rw [byTool_ofGlossed, List.map_map]
  refine (List.map_id _).symm ▸ List.Nodup.filter _ ?_
  decide

/-- What the numbers of a summary say about the violations. -/
structure Counts (s : Summary) (gs : List Glossed) : Prop where
  total : s.total = gs.length
  withRule : s.withRule = (gs.filter (·.semantic.isSome)).length
  withRule_le : s.withRule ≤ s.total
  withoutRule : s.withoutRule = s.total - s.withRule
  /-- The table by tool is built by going over the violations once. -/
  byTool : s.byTool = gs.foldl (fun table x => tally x.violation.tool table) []
  /-- A tool is in it if it has a violation, and it has the number of these. -/
  mem_byTool : ∀ t n,
    (t, n) ∈ s.byTool ↔ (∃ x ∈ gs, x.violation.tool = t) ∧ n = (gs.map (·.violation.tool)).count t
  pos_of_mem : ∀ t n, (t, n) ∈ s.byTool → 0 < n
  nodup : (s.byTool.map (·.1)).Nodup
  sum : (s.byTool.map (·.2)).sum = s.total
  files : s.files = (filesOf gs).card
  files_le : s.files ≤ s.total
  files_eq_zero : s.files = 0 ↔ s.total = 0

/-- What two summaries say about the one of their violations together. -/
structure Combines (s s₁ s₂ : Summary) : Prop where
  total : s.total = s₁.total + s₂.total
  withRule : s.withRule = s₁.withRule + s₂.withRule
  withoutRule : s.withoutRule = s₁.withoutRule + s₂.withoutRule
  countFor : ∀ t, s.countFor t = s₁.countFor t + s₂.countFor t
  le_files : max s₁.files s₂.files ≤ s.files
  files_le : s.files ≤ s₁.files + s₂.files

theorem counts_ofGlossed (gs : List Glossed) : (ofGlossed gs).Counts gs where
  total := rfl
  withRule := List.countP_eq_length_filter
  withRule_le := List.countP_le_length
  withoutRule := by
    have htotal := total_eq_withRule_add gs
    omega
  byTool := (foldl_tally [] gs).symm
  mem_byTool _ _ := mem_byTool_iff
  pos_of_mem t n hmem := by
    obtain ⟨⟨x, hx, ht⟩, rfl⟩ := mem_byTool_iff.1 hmem
    exact List.count_pos_iff.2 (List.mem_map.2 ⟨x, hx, ht⟩)
  nodup := nodup_tools gs
  sum := sum_byTool_ofGlossed gs
  files := files_ofGlossed gs
  files_le := files_le_total gs
  files_eq_zero := files_eq_zero_iff gs

theorem ofGlossed_perm {gs hs : List Glossed} (h : gs.Perm hs) : ofGlossed gs = ofGlossed hs := by
  have hcount : ∀ t, countOf t gs = countOf t hs := fun t => h.countP_eq _
  have hfiles : (ofGlossed gs).files = (ofGlossed hs).files := by
    rw [files_ofGlossed, files_ofGlossed, filesOf, filesOf, List.toFinset_eq_of_perm _ _ (h.map _)]
  simp only [ofGlossed, Summary.mk.injEq] at hfiles ⊢
  simp only [hcount, h.length_eq, h.countP_eq, hfiles, and_self]

theorem combines_append (gs more : List Glossed) :
    (ofGlossed (gs ++ more)).Combines (ofGlossed gs) (ofGlossed more) where
  total := List.length_append
  withRule := List.countP_append
  withoutRule := List.countP_append
  countFor t := by
    rw [countFor_ofGlossed, countFor_ofGlossed, countFor_ofGlossed]
    exact List.countP_append
  le_files := by
    rw [files_ofGlossed, files_ofGlossed, files_ofGlossed, filesOf_append]
    exact max_le (Finset.card_le_card Finset.subset_union_left) (Finset.card_le_card Finset.subset_union_right)
  files_le := by
    rw [files_ofGlossed, files_ofGlossed, files_ofGlossed, filesOf_append]
    exact Finset.card_union_le _ _

/-- **The counts are exact**, in whichever order the violations come, and those of two lists add up. -/
theorem counts_exactly {gs hs : List Glossed} (h : gs.Perm hs) (more : List Glossed) :
    (ofGlossed gs).Counts gs ∧ ofGlossed hs = ofGlossed gs ∧
      (ofGlossed (gs ++ more)).Combines (ofGlossed gs) (ofGlossed more) :=
  ⟨counts_ofGlossed gs, ofGlossed_perm h.symm, combines_append gs more⟩

/-- Two violations of one tool in one file, one of them with a rule, and more of the same file. -/
theorem counts_exactly_one_file :
    let x : Glossed := ⟨.ofParts .ruff "a.py" 1 1 "F401" "unused", some ⟨"i", "l", "w"⟩⟩
    let y : Glossed := ⟨.ofParts .ruff "a.py" 0 0 "E501" "long", none⟩
    let z : Glossed := ⟨.ofParts .eslint "a.py" 2 1 "eqeqeq" "", none⟩
    [x, y].Perm [y, x] ∧ (ofGlossed [x, y]).Counts [x, y] ∧ ofGlossed [y, x] = ofGlossed [x, y] ∧
      (ofGlossed ([x, y] ++ [y, z])).Combines (ofGlossed [x, y]) (ofGlossed [y, z]) := by
  intro x y z
  have hperm : [x, y].Perm [y, x] := .swap y x []
  exact ⟨hperm, counts_exactly hperm [y, z]⟩

example : ofGlossed [⟨.ofParts .ruff "a.py" 1 1 "F401" "unused", some ⟨"i", "l", "w"⟩⟩,
    ⟨.ofParts .eslint "b.js" 1 1 "eqeqeq" "", none⟩, ⟨.ofParts .ruff "b.js" 1 1 "E501" "long", none⟩] =
      ⟨3, 1, 2, [(.eslint, 1), (.ruff, 2)], 2⟩ := by decide

end LintGloss.Summary
