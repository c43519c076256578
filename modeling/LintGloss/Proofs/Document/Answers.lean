import LintGloss.Proofs.Command
import LintGloss.Proofs.Document
/-!
# The answers of commands

A command answers with a document of its own kind, or with one that tells of a failure.  Whether all is well is found
out apart from the document, and yet the document says it (`exists_tells`).
-/

namespace LintGloss

namespace Document

def ofFailure (f : Failure) : Document := failure true f.code f.message

theorem toJson_ofFailure (f : Failure) : (ofFailure f).toJson = f.toJson := rfl

/-- A document that is the answer of a command. -/
def Answers (d : Document) : Except Failure Reply → Prop
  | .ok r => r.body = d.toJson.sortKeys
  | .error f => d = ofFailure f

/-- The documents that a command can answer with. -/
def IsOf : Document → Command → Prop
  | failure isError _ _, _ => isError = true
  | report _, .run .. => True
  | created .., .init .. => True
  | valid .., .validate .. | invalid _, .validate .. => True
  | listing .., .list .. => True
  | _, _ => False

/-- The exit code that a document stands for.  With a report all is well if it counts no violation and every linter did
its work. -/
def exitCode : Document → Nat
  | report r => if r.summary.total = 0 ∧ ∀ s ∈ r.results, s.status = .success then 0 else 1
  | failure .. | invalid _ => 1
  | created .. | valid .. | listing .. => 0

/-- The document is the answer of the command, and says how the command went. -/
structure Tells (d : Document) (c : Command) (r : Except Failure Reply) : Prop where
  answers : d.Answers r
  isOf : d.IsOf c
  exitCode_eq : Command.exitCode r = d.exitCode
  inOrder : d.InOrder

theorem tells_ofFailure (c : Command) (f : Failure) : (ofFailure f).Tells c (.error f) where
  answers := rfl
  isOf := by cases c <;> rfl
  exitCode_eq := rfl
  inOrder := trivial

open Command

/-- All is well with a run if the report says so. -/
theorem exitCode_replyTo (table : RuleTable) (detected : List Invocation) (results : List RunResult) :
    Command.exitCode (.ok (replyTo results (reportOf table detected results))) =
      (report (reportOf table detected results)).exitCode := by
  have hwell : Command.exitCode (.ok (replyTo results (reportOf table detected results))) = 0 ↔
      (reportOf table detected results).summary.total = 0 ∧
        ∀ s ∈ (reportOf table detected results).results, s.status = .success := by
    rw [exitCode_replyTo_eq_zero_iff]
    simp [reportOf, Report.assemble, Summary.ofGlossed, LinterSummary.ofResult]
  rw [exitCode]
  split
  · rename_i hreport
    exact hwell.2 hreport
  · rename_i hreport
    exact (exitCode_eq_zero_or_one _).resolve_left fun hzero => hreport (hwell.1 hzero)

variable {fs : Files} {cwd : String} {attempt : Invocation → Attempt}

theorem exists_tells_run (config tool : Option String) (pretty : Bool) :
    ∃ d : Document, d.Tells (.run config tool pretty) (runReply fs cwd attempt config tool) := by
  cases h : runReply fs cwd attempt config tool with
  | error f => exact ⟨_, tells_ofFailure _ f⟩
  | ok r =>
    cases hload : Config.load fs (Config.pathIn cwd config) with
    | error e =>
      rw [runReply_of_load_error hload] at h
      cases h
    | ok c =>
      rw [runReply_of_load hload] at h
      obtain ⟨linters, -, rfl⟩ := proceed_eq_ok_iff.1 h
      exact ⟨report (reportOf (.ofConfig c) (Detection.detect fs cwd) (runAll attempt linters)), rfl, trivial,
        exitCode_replyTo _ _ _, Summary.tools_ofGlossed_sublist _⟩

theorem exists_tells_validate (config : Option String) (pretty : Bool) :
    ∃ d : Document, d.Tells (.validate config pretty) (validateReply fs cwd config) := by
  cases hpath : fs.hasPath (Config.pathIn cwd config) with
  | false =>
    rw [validateReply_of_missing hpath]
    exact ⟨_, tells_ofFailure _ _⟩
  | true =>
    cases hload : Config.load fs (Config.pathIn cwd config) with
    | error e =>
      rw [validateReply_of_load_error hpath hload]
      exact ⟨invalid [e.message], rfl, trivial, rfl, trivial⟩
    | ok c =>
      rw [validateReply_of_load hpath hload]
      exact ⟨valid c.ruleTools c.rules.length, rfl, trivial, rfl, trivial⟩

theorem exists_tells_list (config : Option String) (pretty : Bool) :
    ∃ d : Document, d.Tells (.list config pretty) (listReply fs cwd config) := by
  cases hpath : fs.hasPath (Config.pathIn cwd config) with
  | false =>
    rw [listReply_of_missing hpath]
    exact ⟨_, tells_ofFailure _ _⟩
  | true =>
    cases hload : Config.load fs (Config.pathIn cwd config) with
    | error e =>
      rw [listReply_of_load_error hpath hload]
      exact ⟨_, tells_ofFailure _ _⟩
    | ok c =>
      rw [listReply_of_load hpath hload, ← toJson_listing c]
      exact ⟨_, rfl, trivial, rfl, trivial⟩

/-- **Every command answers with a document that tells how it went.** -/
theorem exists_tells (c : Command) : ∃ d : Document, d.Tells c (c.execute fs cwd attempt).1 := by
  cases c with
  | run config tool pretty => exact exists_tells_run config tool pretty
  | validate config pretty => exact exists_tells_validate config pretty
  | list config pretty => exact exists_tells_list config pretty
  | init config preset override pretty =>
    cases h : initReply fs cwd config preset override with
    | error f =>
      rw [execute_init_of_error h]
      exact ⟨_, tells_ofFailure _ f⟩
    | ok p =>
      obtain ⟨r, fs'⟩ := p
      obtain ⟨-, p, -, -, rfl⟩ := initReply_eq_ok_iff.1 h
      rw [execute_init_of_ok h]
      exact ⟨created [config] p.name (nextSteps p), rfl, trivial, rfl, trivial⟩

theorem exists_answers (fs : Files) (cwd : String) (attempt : Invocation → Attempt) (c : Command) :
    ∃ d : Document, d.Answers (c.execute fs cwd attempt).1 := by
  obtain ⟨d, hd⟩ := exists_tells c
  exact ⟨d, hd.answers⟩

end Document

end LintGloss
