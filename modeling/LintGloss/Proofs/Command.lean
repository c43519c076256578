import LintGloss.Command
/-!
# What a command comes to

Each command first looks at its configuration, and what it then comes to is one case for each thing that it can find
there.  `proceed` is the part of a run behind its configuration.
-/

namespace LintGloss

namespace Command

variable {fs : Files} {cwd : String} {attempt : Invocation → Attempt} {config tool : Option String}

/-! ## Failures -/

/-- It is told by a code and a message why there is no reply. -/
def FailsWith (r : Except Failure Reply) (code message : String) : Prop :=
  ∃ f, r = .error f ∧ f.code = code ∧ f.message = message

theorem failsWith_error (f : Failure) : FailsWith (.error f) f.code f.message := ⟨f, rfl, rfl, rfl⟩

theorem FailsWith.exitCode {r : Except Failure Reply} {code message : String} (h : FailsWith r code message) :
    Command.exitCode r = 1 := by
  obtain ⟨f, rfl, -, -⟩ := h
  rfl

theorem exitCode_eq_zero_or_one (r : Except Failure Reply) : exitCode r = 0 ∨ exitCode r = 1 := by
  unfold exitCode
  cases r with
  | ok r => cases r.success <;> simp
  | error f => exact .inr rfl

/-! ## Runs -/

/-- The results of some linters in a reply, as a configuration explains them. -/
def replyFor (fs : Files) (cwd : String) (attempt : Invocation → Attempt) (c : Config) (linters : List Invocation) :
    Reply :=
  let results := runAll attempt linters
  replyTo results (reportOf (.ofConfig c) (Detection.detect fs cwd) results)

/-- All is well with a run if there is nothing to report and every linter did its work. -/
theorem exitCode_replyTo_eq_zero_iff {results : List RunResult} {r : Report} :
    exitCode (.ok (replyTo results r)) = 0 ↔ r.violations = [] ∧ ∀ s ∈ results, s.status = .success := by
  have hsuccess : (replyTo results r).success = true ↔ r.violations = [] ∧ ∀ s ∈ results, s.status = .success := by
    simp [replyTo, RunResult.isFailure]
  rw [← hsuccess, exitCode]
  cases (replyTo results r).success <;> simp

def proceed (fs : Files) (cwd : String) (attempt : Invocation → Attempt) (c : Config) (tool : Option String) :
    Except Failure Reply :=
  (selection (c.adjust (Detection.detect fs cwd)) tool).map (replyFor fs cwd attempt c)

theorem runReply_of_load {c : Config} (h : Config.load fs (Config.pathIn cwd config) = .ok c) :
    runReply fs cwd attempt config tool = proceed fs cwd attempt c tool := by
  rw [runReply, h, proceed]
  show (selection (c.adjust (Detection.detect fs cwd)) tool).bind
    (fun linters => .ok (replyFor fs cwd attempt c linters)) = _
  cases selection (c.adjust (Detection.detect fs cwd)) tool <;> rfl

theorem runReply_of_load_error {e : ConfigError} (h : Config.load fs (Config.pathIn cwd config) = .error e) :
    runReply fs cwd attempt config tool = .error (.ofConfig e) := by
  rw [runReply, h]
  rfl

theorem proceed_eq_ok_iff {c : Config} {r : Reply} :
    proceed fs cwd attempt c tool = .ok r ↔
      ∃ linters, selection (c.adjust (Detection.detect fs cwd)) tool = .ok linters ∧
        r = replyFor fs cwd attempt c linters := by
  rw [proceed]
  cases selection (c.adjust (Detection.detect fs cwd)) tool with
  | ok linters => simp [Except.map, eq_comm]
  | error f => simp [Except.map]

theorem proceed_eq_error_iff {c : Config} {f : Failure} :
    proceed fs cwd attempt c tool = .error f ↔ selection (c.adjust (Detection.detect fs cwd)) tool = .error f := by
  rw [proceed]
  cases selection (c.adjust (Detection.detect fs cwd)) tool <;> simp [Except.map]

/-! ## Looking at a configuration -/

theorem present_of_not_hasPath {path : String} (h : fs.hasPath path = false) :
    present fs path = .error (.configNotFound path) := by simp [present, h]

theorem present_of_hasPath {path : String} (h : fs.hasPath path = true) :
    present fs path = .ok (Config.load fs path) := by simp [present, h]

theorem load_of_not_hasPath {path : String} (h : fs.hasPath path = false) : Config.load fs path = .ok {} := by
  simp [Config.load, h]

section Missing

variable (h : fs.hasPath (Config.pathIn cwd config) = false)

include h

theorem validateReply_of_missing :
    validateReply fs cwd config = .error (.configNotFound (Config.pathIn cwd config)) := by
  rw [validateReply, present_of_not_hasPath h]
  rfl

theorem listReply_of_missing : listReply fs cwd config = .error (.configNotFound (Config.pathIn cwd config)) := by
  rw [listReply, present_of_not_hasPath h]
  rfl

end Missing

section Present

variable (h : fs.hasPath (Config.pathIn cwd config) = true)

include h

theorem validateReply_of_load {c : Config} (hc : Config.load fs (Config.pathIn cwd config) = .ok c) :
    validateReply fs cwd config = .ok ⟨(validJson c).sortKeys, true⟩ := by
  rw [validateReply, present_of_hasPath h, hc]
  rfl

theorem validateReply_of_load_error {e : ConfigError} (he : Config.load fs (Config.pathIn cwd config) = .error e) :
    validateReply fs cwd config = .ok ⟨(invalidJson e).sortKeys, false⟩ := by
  rw [validateReply, present_of_hasPath h, he]
  rfl

theorem listReply_of_load {c : Config} (hc : Config.load fs (Config.pathIn cwd config) = .ok c) :
    listReply fs cwd config = .ok ⟨(listJson c).sortKeys, true⟩ := by
  rw [listReply, present_of_hasPath h, hc]
  rfl

theorem listReply_of_load_error {e : ConfigError} (he : Config.load fs (Config.pathIn cwd config) = .error e) :
    listReply fs cwd config = .error (.ofConfig e) := by
  rw [listReply, present_of_hasPath h, he]
  rfl

end Present

/-! ## Starting a configuration -/

theorem initReply_eq_ok_iff {config preset : String} {override : Bool} {r : Reply} {fs' : Files} :
    initReply fs cwd config preset override = .ok (r, fs') ↔
      (fs.hasPath (Path.join cwd config) = true → override = true) ∧
        ∃ p, Preset.ofName? preset = some p ∧
          fs.write (Path.join cwd config) (Text.Utf8.encode p.text) = .ok fs' ∧
            r = ⟨(initJson config p).sortKeys, true⟩ := by
  simp only [initReply]
  constructor
  · intro h
    split at h
    · cases h
    · rename_i hfree
      refine ⟨by simpa using hfree, ?_⟩
      split at h
      · cases h
      · rename_i p hp
        split at h
        · cases h
        · rename_i fs'' hwrite
          obtain ⟨hr, hfs⟩ := Prod.mk.inj (Except.ok.inj h)
          exact ⟨p, hp, hfs ▸ hwrite, hr.symm⟩
  · rintro ⟨hfree, p, hp, hwrite, rfl⟩
    rw [if_neg (by simpa using hfree), hp]
    simp only [hwrite]

section Init

variable {config preset : String} {override pretty : Bool}

theorem execute_init_of_ok {r : Reply} {fs' : Files} (h : initReply fs cwd config preset override = .ok (r, fs')) :
    execute fs cwd attempt (.init config preset override pretty) = (.ok r, fs') := by
  unfold execute
  dsimp only
  rw [h]

theorem execute_init_of_error {f : Failure} (h : initReply fs cwd config preset override = .error f) :
    execute fs cwd attempt (.init config preset override pretty) = (.error f, fs) := by
  unfold execute
  dsimp only
  rw [h]

end Init

end Command

end LintGloss
