import LintGloss.Proofs.Adjustment
import LintGloss.Proofs.Command.Restriction
import LintGloss.Proofs.Detection
import LintGloss.Proofs.Keyed
import LintGloss.Proofs.Report.Accounting
import LintGloss.Proofs.Steps
import Mathlib.Data.List.Forall2
/-!
# Rules are annotations

The rules of a configuration decide what stands beside the violations of a run and nothing else.  With other rules the
same linters are started, and the reports differ in the rules of their violations and in how many have one
(`rules_only_annotate`).  To add rules with new keys takes none away that was there.
-/

namespace LintGloss

/-! ## Rules that are added -/

/-- The rules are those of another configuration, with rules between them whose keys the other does not have. -/
def Config.Extends (c' c : Config) : Prop := (c'.rules.filter fun e => e.key ∈ c.rules.map RuleEntry.key) = c.rules

theorem RuleTable.get?_of_extends {c c' : Config} (h : c'.Extends c) {key : String} {rule : Rule}
    (hrule : (ofConfig c).get? key = some rule) : (ofConfig c').get? key = some rule := by
  have hkey : key ∈ c.rules.map RuleEntry.key := by
    obtain ⟨before, after, hsplit, -⟩ := lastOf?_eq_some_iff.1 hrule
    have hmem : (key, rule) ∈ (ofConfig c).entries := by
      rw [hsplit]
      exact List.mem_append_right _ List.mem_cons_self
    obtain ⟨e, he, heq⟩ := List.mem_map.1 hmem
    exact List.mem_map.2 ⟨e, he, (Prod.mk.inj heq).1⟩
  have hnew : ∀ e ∈ c'.rules, decide (e.key ∈ c.rules.map RuleEntry.key) = false → e.key ≠ key := by
    rintro e - hout rfl
    exact of_decide_eq_false hout hkey
  have hsame := lastOf?_map_filter (fun e : RuleEntry => (e.key, e.rule)) _ hnew
  rw [Config.Extends] at h
  rw [h] at hsame
  exact hsame.symm.trans hrule

namespace Report

/-! ## Reports of the same results -/

/-- The reports say the same of everything but rules. -/
structure AgreesBesideRules (r r' : Report) : Prop where
  violations_eq : r.violations.map (·.violation) = r'.violations.map (·.violation)
  detected_eq : r.detected = r'.detected
  results_eq : r.results = r'.results
  total_eq : r.summary.total = r'.summary.total
  byTool_eq : r.summary.byTool = r'.summary.byTool
  files_eq : r.summary.files = r'.summary.files
  add_eq : r.summary.withRule + r.summary.withoutRule = r'.summary.withRule + r'.summary.withoutRule

/-- A violation with a rule has the same rule in the other report. -/
structure KeepsRules (r r' : Report) : Prop where
  semantic_eq : List.Forall₂ (fun g g' : Glossed => ∀ rule, g.semantic = some rule → g'.semantic = some rule)
    r.violations r'.violations
  withRule_le : r.summary.withRule ≤ r'.summary.withRule

variable {table table' : RuleTable} (detected : List Invocation) (results : List RunResult)

theorem agreesBesideRules_reportOf :
    (Command.reportOf table detected results).AgreesBesideRules (Command.reportOf table' detected results) := by
  have htotal : (Command.reportOf table detected results).summary.total =
      (Command.reportOf table' detected results).summary.total := by
    simp [Command.reportOf, assemble, Summary.ofGlossed, gloss]
  constructor
  · simp only [Command.reportOf, assemble, map_violation_gloss]
  · rfl
  · rfl
  · exact htotal
  · simp only [Command.reportOf, assemble, Summary.ofGlossed, countOf_gloss]
  · simp only [Command.reportOf, assemble, Summary.ofGlossed, gloss, List.map_map]
    rfl
  · simp only [Command.reportOf, assemble] at htotal ⊢
    rw [← Summary.total_eq_withRule_add, ← Summary.total_eq_withRule_add, htotal]

theorem keepsRules_reportOf (h : ∀ key rule, table.get? key = some rule → table'.get? key = some rule) :
    (Command.reportOf table detected results).KeepsRules (Command.reportOf table' detected results) := by
  constructor
  · simp only [Command.reportOf, assemble, gloss]
    rw [List.forall₂_map_left_iff, List.forall₂_map_right_iff, List.forall₂_same]
    exact fun v _ => h v.ruleKey
  · simp only [Command.reportOf, assemble, Summary.ofGlossed, gloss, List.countP_map]
    refine List.countP_mono_left fun v _ hv => ?_
    obtain ⟨rule, hrule⟩ := Option.isSome_iff_exists.1 hv
    exact Option.isSome_iff_exists.2 ⟨rule, h v.ruleKey rule hrule⟩

end Report

/-! ## The linters of a run -/

namespace Command

/-- Two configurations are accepted in one directory, and what they say about linters is the same. -/
structure DifferInRules (fs fs' : Files) (cwd : String) (config config' : Option String) (c c' : Config) : Prop where
  load_eq : Config.load fs (Config.pathIn cwd config) = .ok c
  load_eq' : Config.load fs' (Config.pathIn cwd config') = .ok c'
  override?_eq : ∀ name, c.override? name = c'.override? name
  sameProbes : Detection.SameProbes fs fs' cwd

variable {fs fs' : Files} {cwd : String} {config config' : Option String} {c c' : Config}
  {attempt attempt' : Invocation → Attempt} {tool : Option String}

/-- Two runs fail alike before anything is started, or they start the same linters. -/
theorem DifferInRules.prepare_cases (h : DifferInRules fs fs' cwd config config' c c') (tool : Option String) :
    (∃ f, prepare fs cwd config tool = .error f ∧ prepare fs' cwd config' tool = .error f) ∨
      ∃ linters, prepare fs cwd config tool = .ok (c, linters) ∧ prepare fs' cwd config' tool = .ok (c', linters) := by
  have hmerged : c.adjust (Detection.detect fs cwd) = c'.adjust (Detection.detect fs' cwd) := by
    rw [Detection.detect_eq h.sameProbes, Config.adjust_congr fun t => h.override?_eq t.name]
  rw [prepare_of_load h.load_eq, prepare_of_load h.load_eq', hmerged]
  cases selection (c'.adjust (Detection.detect fs' cwd)) tool with
  | error f => exact .inl ⟨f, rfl, rfl⟩
  | ok linters => exact .inr ⟨linters, rfl, rfl⟩

theorem DifferInRules.started_eq (h : DifferInRules fs fs' cwd config config' c c') (tool : Option String) :
    started fs cwd config tool = started fs' cwd config' tool := by
  obtain ⟨f, hprepare, hprepare'⟩ | ⟨linters, hprepare, hprepare'⟩ := h.prepare_cases tool
  · rw [started_of_prepare_error hprepare, started_of_prepare_error hprepare']
  · rw [started_of_prepare hprepare, started_of_prepare hprepare']

/-- Whether all is well does not depend on rules. -/
theorem exitCode_replyTo_eq (table table' : RuleTable) (detected : List Invocation) (results : List RunResult) :
    exitCode (.ok (replyTo results (reportOf table detected results))) =
      exitCode (.ok (replyTo results (reportOf table' detected results))) := by
  simp [exitCode, replyTo, reportOf, Report.assemble, gloss]

/-- Two runs fail alike, or their replies hold reports of the same results. -/
theorem DifferInRules.runReply_cases (h : DifferInRules fs fs' cwd config config' c c')
    (hattempt : ∀ i ∈ started fs cwd config tool, attempt i = attempt' i) :
    (∃ f, runReply fs cwd attempt config tool = .error f ∧ runReply fs' cwd attempt' config' tool = .error f) ∨
      ∃ results, let detected := Detection.detect fs cwd
        runReply fs cwd attempt config tool = .ok (replyTo results (reportOf (.ofConfig c) detected results)) ∧
        runReply fs' cwd attempt' config' tool = .ok (replyTo results (reportOf (.ofConfig c') detected results)) := by
  obtain ⟨f, hprepare, hprepare'⟩ | ⟨linters, hprepare, hprepare'⟩ := h.prepare_cases tool
  · exact .inl ⟨f, runReply_of_prepare_error hprepare, runReply_of_prepare_error hprepare'⟩
  · rw [started_of_prepare hprepare] at hattempt
    have hresults : runAll attempt' linters = runAll attempt linters :=
      List.map_congr_left fun i hi => congrArg i.conclude (hattempt i hi).symm
    refine .inr ⟨runAll attempt linters, runReply_of_prepare hprepare, ?_⟩
    rw [runReply_of_prepare hprepare', replyFor, hresults, ← Detection.detect_eq h.sameProbes]

/-- **Rules only annotate.**  Where two configurations differ in nothing but their rules and linters come to the same,
the same linters are started with the same arguments; the runs fail alike, or their reports say the same of everything
but rules, and the exit codes are the same.  To add rules with new keys changes no rule that stands beside a
violation. -/
theorem rules_only_annotate (h : DifferInRules fs fs' cwd config config' c c')
    (hattempt : ∀ i ∈ started fs cwd config tool, attempt i = attempt' i) :
    ((runVia fs cwd (logged attempt) config tool).run []).2 =
        ((runVia fs' cwd (logged attempt') config' tool).run []).2 ∧
      (∀ f, runReply fs cwd attempt config tool = .error f ↔ runReply fs' cwd attempt' config' tool = .error f) ∧
      exitCode (runReply fs cwd attempt config tool) = exitCode (runReply fs' cwd attempt' config' tool) ∧
      ∀ r, runReply fs cwd attempt config tool = .ok r →
        ∃ r' report report', runReply fs' cwd attempt' config' tool = .ok r' ∧
          r.body = report.toJson.sortKeys ∧ r'.body = report'.toJson.sortKeys ∧
          Report.ofJson? r.body = some report ∧ Report.ofJson? r'.body = some report' ∧
          report.AgreesBesideRules report' ∧ (c'.Extends c → report.KeepsRules report') := by
  refine ⟨?_, ?_⟩
  · rw [run_runVia_logged, run_runVia_logged, h.started_eq tool]
  obtain ⟨f, hrun, hrun'⟩ | ⟨results, hrun, hrun'⟩ := h.runReply_cases hattempt
  · rw [hrun, hrun']
    exact ⟨fun _ => Iff.rfl, rfl, fun r hr => nomatch hr⟩
  · rw [hrun, hrun']
    refine ⟨fun f => by simp, exitCode_replyTo_eq _ _ _ _, fun r hr => ?_⟩
    obtain rfl := Except.ok.inj hr
    exact ⟨_, _, _, rfl, rfl, rfl, Report.ofJson?_sortKeys_assemble _ _ _, Report.ofJson?_sortKeys_assemble _ _ _,
      Report.agreesBesideRules_reportOf _ _,
      fun hextends => Report.keepsRules_reportOf _ _ fun _ _ hrule => RuleTable.get?_of_extends hextends hrule⟩

/-- The second configuration has a rule more, for one of two findings. -/
theorem rules_only_annotate_ruff :
    let rule := "  F401: \x7billegal: a, legal: b, why: c\x7d\n"
    let s := "rules:\n ruff:\n" ++ rule
    let s' := "rules:\n ruff:\n  E501: \x7billegal: x, legal: y, why: z\x7d\n" ++ rule
    let place : Place := ["lintent.yaml"]
    let base : Files := ⟨[(["ruff.toml"], .file [])]⟩
    let fs := base.set place (.file (Text.Utf8.encode s))
    let fs' := base.set place (.file (Text.Utf8.encode s'))
    let c : Config := ⟨[], [⟨"ruff", "F401", ⟨"a", "b", "c"⟩⟩]⟩
    let c' : Config := ⟨[], [⟨"ruff", "E501", ⟨"x", "y", "z"⟩⟩, ⟨"ruff", "F401", ⟨"a", "b", "c"⟩⟩]⟩
    let attempt : Invocation → Attempt := fun _ =>
      .ok { stdout := "[[\"F401\", \"a.py\", [1, 8], \"unused\"], [\"E501\", \"a.py\", [2, 1], \"long\"]]",
            exitCode := some 1 }
    DifferInRules fs fs' "/" none none c c' ∧ c'.Extends c ∧
      ∃ (r r' : Reply) (report report' : Report), runReply fs "/" attempt none none = .ok r ∧
        runReply fs' "/" attempt none none = .ok r' ∧ Report.ofJson? r.body = some report ∧
        Report.ofJson? r'.body = some report' ∧ report.AgreesBesideRules report' ∧ report.KeepsRules report' := by
  intro rule s s' place base fs fs' c c' attempt
  have hload : Config.load fs (Config.pathIn "/" none) = .ok c := eq_ok_of_toOption (by decide +kernel)
  have hload' : Config.load fs' (Config.pathIn "/" none) = .ok c' := eq_ok_of_toOption (by decide +kernel)
  have hprobes : (Detection.probes "/").all (fun path => (fs.locate path).toOption ≠ some place) = true := by
    decide +kernel
  have hsame : Detection.SameProbes fs fs' "/" := by
    refine Detection.sameProbes_of_sameBut (base.sameBut_set (List.cons_ne_nil _ _) _ _) fun path hpath hlocate => ?_
    have hne := of_decide_eq_true (List.all_eq_true.1 hprobes path hpath)
    rw [hlocate] at hne
    exact hne rfl
  have hdiffer : DifferInRules fs fs' "/" none none c c' := ⟨hload, hload', fun _ => rfl, hsame⟩
  have hextends : c'.Extends c := by
    unfold Config.Extends
    decide
  have hmerged : c.adjust (Detection.detect fs "/") = [.standard .ruff (some "/ruff.toml")] := by decide +kernel
  have hrun : runReply fs "/" attempt none none =
      .ok (replyFor fs "/" attempt c [.standard .ruff (some "/ruff.toml")]) := by
    rw [runReply_of_load hload, proceed, hmerged]
    rfl
  obtain ⟨-, -, -, hreplies⟩ :=
    @rules_only_annotate fs fs' "/" none none c c' attempt attempt none hdiffer fun _ _ => rfl
  obtain ⟨r', report, report', hrun', -, -, hread, hread', hagree, hkeeps⟩ := hreplies _ hrun
  exact ⟨hdiffer, hextends, _, r', report, report', hrun, hrun', hread, hread', hagree, hkeeps hextends⟩

end Command

end LintGloss
