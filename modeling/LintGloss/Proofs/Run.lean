import LintGloss.Proofs.Diagnostic
import LintGloss.Proofs.Linters
import LintGloss.Run
/-!
# Results and the attempts behind them

A result is sound for an invocation if it is one of its tool, holds violations of that tool alone, and holds none at
all without success.  Every attempt ends in a sound result (`sound_conclude`), and what a successful one holds is what
the tool reads off the stream with the findings (`violations_conclude`).
-/

namespace LintGloss

/-- The stream that the violations are read from; an attempt without output has none. -/
def Attempt.findings : Attempt → String
  | .ok o => Invocation.findings o
  | .error _ => ""

namespace RunResult

structure Sound (r : RunResult) : Prop where
  tool_eq : ∀ v ∈ r.violations, v.tool = r.tool
  violations_eq_nil : r.status ≠ .success → r.violations = []

theorem Sound.countP_eq {r : RunResult} (h : r.Sound) (t : Tool) :
    r.violations.countP (·.tool = t) = if r.tool = t then r.violations.length else 0 := by
  by_cases ht : r.tool = t
  · rw [if_pos ht, List.countP_eq_length]
    intro v hv
    simp [h.tool_eq v hv, ht]
  · rw [if_neg ht, List.countP_eq_zero]
    intro v hv
    simp [h.tool_eq v hv, ht]

end RunResult

namespace Invocation

@[simp] theorem tool_conclude (i : Invocation) (a : Attempt) : (i.conclude a).tool = i.tool := by
  unfold conclude
  split
  · unfold interpret
    split
    · rfl
    · split <;> rfl
  · rfl

/-- **What a result holds**: after a success what the tool reads, and nothing otherwise. -/
theorem violations_conclude (i : Invocation) (a : Attempt) :
    (i.conclude a).violations = if (i.conclude a).status = .success then i.tool.read a.findings else [] := by
  unfold conclude
  split
  · unfold interpret
    split
    · rfl
    · split <;> rfl
  · rfl

theorem sound_conclude (i : Invocation) (a : Attempt) : (i.conclude a).Sound where
  tool_eq v hv := by
    rw [violations_conclude] at hv
    split at hv
    · rw [tool_conclude]
      exact Tool.tool_of_mem_read hv
    · cases hv
  violations_eq_nil h := by rw [violations_conclude, if_neg h]

end Invocation

/-! ## All results of a run -/

theorem sound_of_mem_runAll {attempt : Invocation → Attempt} {is : List Invocation} {r : RunResult}
    (h : r ∈ runAll attempt is) : r.Sound := by
  obtain ⟨i, -, rfl⟩ := List.mem_map.1 h
  exact i.sound_conclude (attempt i)

end LintGloss
