import LintGloss.Report
import Mathlib.Algebra.GroupWithZero.Nat
/-!
# What a summary counts

The counts by tool are exact (`countFor_ofGlossed`), they add up to the total (`sum_byTool_ofGlossed`), and so do the
violations with a rule and those without one.
-/

namespace LintGloss.Summary

/-- How many violations a summary gives a tool; a tool that it leaves out has none. -/
def countFor (s : Summary) (t : Tool) : Nat := (s.byTool.lookup t).getD 0

theorem byTool_ofGlossed (gs : List Glossed) :
    (ofGlossed gs).byTool = (Tool.alphabetic.filter (0 < countOf · gs)).map fun t => (t, countOf t gs) := by
  rw [ofGlossed, List.filter_map]
  rfl

theorem lookup_map_self {α : Type} (f : Tool → α) (t : Tool) : ∀ l : List Tool,
    (l.map fun t' => (t', f t')).lookup t = if t ∈ l then some (f t) else none
  | [] => rfl
  | a :: l => by
    rw [List.map_cons, List.lookup_cons, lookup_map_self f t l]
    by_cases hta : t = a
    · subst hta
      simp
    · have hb : (t == a) = false := by simpa using hta
      simp [hb, hta]

/-- The tools that are left out add nothing. -/
theorem sum_filter_pos (f : Tool → Nat) : ∀ l : List Tool, ((l.filter (0 < f ·)).map f).sum = (l.map f).sum
  | [] => rfl
  | a :: l => by
    have ih := sum_filter_pos f l
    rw [List.map_cons, List.sum_cons]
    by_cases hpos : 0 < f a
    · rw [List.filter_cons_of_pos (by simpa using hpos), List.map_cons, List.sum_cons, ih]
    · rw [List.filter_cons_of_neg (by simpa using hpos), ih]
      omega

theorem mem_alphabetic (t : Tool) : t ∈ Tool.alphabetic := by cases t <;> decide

theorem sum_countOf (gs : List Glossed) : (Tool.alphabetic.map fun t => countOf t gs).sum = gs.length := by
  induction gs with
  | nil => rfl
  | cons g gs ih =>
    simp only [Tool.alphabetic, countOf, List.map_cons, List.map_nil, List.sum_cons, List.sum_nil, List.countP_cons,
      List.length_cons, decide_eq_true_eq] at ih ⊢
    cases g.violation.tool <;> simp only [reduceCtorEq, if_true, if_false] <;> omega

/-- **The counts by tool are exact.** -/
theorem countFor_ofGlossed (gs : List Glossed) (t : Tool) : (ofGlossed gs).countFor t = countOf t gs := by
  rw [countFor, byTool_ofGlossed, lookup_map_self]
  by_cases hpos : 0 < countOf t gs
  · rw [if_pos (List.mem_filter.2 ⟨mem_alphabetic t, by simpa using hpos⟩), Option.getD_some]
  · rw [if_neg (fun h => hpos (by simpa using (List.mem_filter.1 h).2)), Option.getD_none]
    omega

theorem sum_byTool_ofGlossed (gs : List Glossed) : ((ofGlossed gs).byTool.map (·.2)).sum = (ofGlossed gs).total := by
  rw [byTool_ofGlossed, List.map_map]
  exact (sum_filter_pos (countOf · gs) Tool.alphabetic).trans (sum_countOf gs)

theorem total_eq_withRule_add (gs : List Glossed) :
    (ofGlossed gs).total = (ofGlossed gs).withRule + (ofGlossed gs).withoutRule := by
  simp only [ofGlossed]
  rw [List.length_eq_countP_add_countP (·.semantic.isSome)]
  congr 2
  funext g
  cases g.semantic <;> rfl

end LintGloss.Summary
