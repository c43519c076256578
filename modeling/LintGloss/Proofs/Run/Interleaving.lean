import LintGloss.Proofs.Command.Restriction
import Mathlib.Data.List.Nodup
import Mathlib.Data.List.Range
import Mathlib.Data.Option.Basic
/-!
# Linters that run side by side

All linters of a run are started together, and they end in any order, with output, with a failure to start or by being
stopped.  The state of such a run has a place for each linter, where its result comes when it ends.  A step fills one
place that is still empty, and a run is over when no place is empty.

One step keeps that every result is that of its own linter (`Step.sound`), and so does every run (`Run.sound`).  A run
that is over has therefore the results of `runAll`, whichever linter came first (`order_is_immaterial`).
-/

namespace LintGloss

/-- A linter of a run, and what the attempt to run it comes to. -/
structure Job where
  invocation : Invocation
  attempt : Attempt

def Job.result (job : Job) : RunResult := job.invocation.conclude job.attempt

/-- For each linter its result, or none while it runs. -/
abbrev Progress := List (Option RunResult)

namespace Progress

def start (jobs : List Job) : Progress := jobs.map fun _ => none

def IsOver (p : Progress) : Prop := none ∉ p

/-- The linter at a place ends while others may be running. -/
inductive Step (jobs : List Job) (p : Progress) (k : Nat) : Progress → Prop
  | ends {job : Job} (hjob : jobs[k]? = some job) (hruns : p[k]? = some none) :
      Step jobs p k (p.set k (some job.result))

/-- Linters end one after another, at the places of a list. -/
inductive Run (jobs : List Job) : Progress → List Nat → Progress → Prop
  | nil (p : Progress) : Run jobs p [] p
  | cons {p q r : Progress} {k : Nat} {ks : List Nat} (hstep : Step jobs p k q) (hrun : Run jobs q ks r) :
      Run jobs p (k :: ks) r

/-- Each result stands at the place of its own linter. -/
structure Sound (jobs : List Job) (p : Progress) : Prop where
  length_eq : p.length = jobs.length
  result_eq : ∀ (k : Nat) (job : Job) (r : RunResult), jobs[k]? = some job → p[k]? = some (some r) → r = job.result

variable {jobs : List Job} {p q : Progress} {k : Nat} {order : List Nat}

/-! ## One step -/

theorem Step.sound (h : Step jobs p k q) (hp : Sound jobs p) : Sound jobs q := by
  cases h with
  | @ends job hjob hruns =>
    constructor
    · rw [List.length_set, hp.length_eq]
    · intro j job' r hjob' hr
      by_cases hjk : k = j
      · subst hjk
        have hlt : k < p.length := (List.getElem?_eq_some_iff.1 hruns).1
        rw [List.getElem?_set_self hlt] at hr
        obtain rfl : job = job' := Option.some.inj (hjob.symm.trans hjob')
        exact (Option.some.inj (Option.some.inj hr)).symm
      · rw [List.getElem?_set_ne hjk] at hr
        exact hp.result_eq j job' r hjob' hr

/-- A step ends one linter that was running, and the others run on. -/
theorem Step.runs_iff (h : Step jobs p k q) (j : Nat) : q[j]? = some none ↔ p[j]? = some none ∧ j ≠ k := by
  cases h with
  | @ends job hjob hruns =>
    by_cases hjk : k = j
    · subst hjk
      have hlt : k < p.length := (List.getElem?_eq_some_iff.1 hruns).1
      simp [List.getElem?_set_self hlt]
    · rw [List.getElem?_set_ne hjk]
      simp [Ne.symm hjk]

theorem Step.runs (h : Step jobs p k q) : p[k]? = some none := by
  cases h with
  | ends hjob hruns => exact hruns

theorem exists_step (hp : Sound jobs p) (hk : p[k]? = some none) : ∃ q, Step jobs p k q := by
  have hlt : k < jobs.length := hp.length_eq ▸ (List.getElem?_eq_some_iff.1 hk).1
  have hjob : jobs[k]? = some jobs[k] := List.getElem?_eq_getElem hlt
  exact ⟨_, .ends hjob hk⟩

/-! ## A whole run -/

theorem sound_start (jobs : List Job) : Sound jobs (start jobs) where
  length_eq := List.length_map _
  result_eq k job r hjob hr := by simp [start, List.getElem?_replicate] at hr

theorem runs_start_iff : (start jobs)[k]? = some none ↔ k < jobs.length := by
  simp [start, List.getElem?_eq_some_iff]

theorem Run.sound (h : Run jobs p order q) (hp : Sound jobs p) : Sound jobs q := by
  induction h with
  | nil => exact hp
  | cons hstep _ ih => exact ih (hstep.sound hp)

/-- The linters that still run are those that have not had their turn. -/
theorem Run.runs_iff (h : Run jobs p order q) (j : Nat) : q[j]? = some none ↔ p[j]? = some none ∧ j ∉ order := by
  induction h with
  | nil => simp
  | cons hstep _ ih =>
    rw [ih, hstep.runs_iff j, List.mem_cons, not_or]
    exact and_assoc

/-- No linter ends twice, and none that did not run. -/
theorem Run.nodup_and_runs (h : Run jobs p order q) : order.Nodup ∧ ∀ j ∈ order, p[j]? = some none := by
  induction h with
  | nil => exact ⟨List.nodup_nil, List.forall_mem_nil _⟩
  | cons hstep _ ih =>
    obtain ⟨hnodup, hruns⟩ := ih
    refine ⟨List.nodup_cons.2 ⟨fun hk => ?_, hnodup⟩, List.forall_mem_cons.2 ⟨hstep.runs, fun j hj => ?_⟩⟩
    · exact ((hstep.runs_iff _).1 (hruns _ hk)).2 rfl
    · exact ((hstep.runs_iff j).1 (hruns j hj)).1

/-- Any linters that run can end next, and in any order. -/
theorem exists_run : ∀ {order : List Nat} {p : Progress}, Sound jobs p → order.Nodup →
    (∀ j ∈ order, p[j]? = some none) → ∃ q, Run jobs p order q
  | [], p, _, _, _ => ⟨p, .nil p⟩
  | k :: ks, p, hp, hnodup, hruns => by
    obtain ⟨hk, hks⟩ := List.nodup_cons.1 hnodup
    obtain ⟨hrunk, hrunks⟩ := List.forall_mem_cons.1 hruns
    obtain ⟨q, hstep⟩ := exists_step hp hrunk
    have hrest : ∀ j ∈ ks, q[j]? = some none := fun j hj =>
      (hstep.runs_iff j).2 ⟨hrunks j hj, fun hjk => hk (hjk ▸ hj)⟩
    obtain ⟨r, hrun⟩ := exists_run (hstep.sound hp) hks hrest
    exact ⟨r, .cons hstep hrun⟩

/-- **A run is over exactly when every linter has had its turn**, once each. -/
theorem Run.isOver_iff (h : Run jobs (start jobs) order p) : IsOver p ↔ order.Perm (List.range jobs.length) := by
  obtain ⟨hnodup, hruns⟩ := h.nodup_and_runs
  have hover : IsOver p ↔ ∀ k < jobs.length, k ∈ order := by
    rw [IsOver, List.mem_iff_getElem?, not_exists]
    refine forall_congr' fun k => ?_
    rw [h.runs_iff, runs_start_iff, not_and, not_not]
  rw [hover, List.perm_ext_iff_of_nodup hnodup List.nodup_range]
  constructor
  · intro hall k
    rw [List.mem_range]
    exact ⟨fun hk => runs_start_iff.1 (hruns k hk), hall k⟩
  · intro hmem k hk
    exact (hmem k).2 (List.mem_range.2 hk)

/-- With every place filled, the results are those of the linters in their order. -/
theorem Sound.eq_of_isOver (hp : Sound jobs p) (hover : IsOver p) : p = (jobs.map Job.result).map some := by
  refine List.ext_getElem? fun k => ?_
  by_cases hk : k < jobs.length
  · have hlt : k < p.length := hp.length_eq ▸ hk
    have hslot : p[k]? = some p[k] := List.getElem?_eq_getElem hlt
    have hjob : jobs[k]? = some jobs[k] := List.getElem?_eq_getElem hk
    cases hr : p[k] with
    | none => exact absurd (hr ▸ List.getElem_mem _) hover
    | some r =>
      rw [hr] at hslot
      rw [hslot, hp.result_eq k jobs[k] r hjob hslot]
      simp [hk]
  · have hp' : p[k]? = none := List.getElem?_eq_none (by rw [hp.length_eq]; omega)
    have hjobs : jobs[k]? = none := List.getElem?_eq_none (by omega)
    simp [hp', hjobs]

theorem Run.eq_of_isOver (h : Run jobs (start jobs) order p) (hover : IsOver p) :
    p = (jobs.map Job.result).map some :=
  (h.sound (sound_start jobs)).eq_of_isOver hover

theorem eq_results_of_run {results : List RunResult} (h : Run jobs (start jobs) order (results.map some)) :
    results = jobs.map Job.result := by
  have hover : IsOver (results.map some) := by simp [IsOver]
  exact List.map_injective_iff.2 (Option.some_injective _) (h.eq_of_isOver hover)

/-- **Which linter ends first makes no difference.**  In whatever order the linters of a run end, each result is that of
its own linter; the run is over when all have ended, and until then it can go on; then there is one result for each
linter, at its place; a linter that comes to something else changes no result but its own; and the reply to the
command is the one that is made of the results in the order of the linters. -/
theorem order_is_immaterial (jobs : List Job) :
    (∀ order : List Nat, order.Perm (List.range jobs.length) → ∃ p, Run jobs (start jobs) order p ∧ IsOver p) ∧
      (∀ (order : List Nat) (p : Progress), Run jobs (start jobs) order p → Sound jobs p ∧
        (IsOver p ↔ order.Perm (List.range jobs.length)) ∧ (¬IsOver p → ∃ k q, Step jobs p k q) ∧
        (IsOver p → ∃ results : List RunResult, p = results.map some ∧ results.length = jobs.length ∧
          ∀ (k : Nat) (job : Job), jobs[k]? = some job → results[k]? = some job.result)) ∧
      (∀ (k : Nat) (job : Job) (order order' : List Nat) (p p' : Progress),
        Run jobs (start jobs) order p → IsOver p →
        Run (jobs.set k job) (start (jobs.set k job)) order' p' → IsOver p' → ∀ j, j ≠ k → p'[j]? = p[j]?) ∧
      ∀ (fs : Files) (cwd : String) (attempt : Invocation → Attempt) (config tool : Option String) (c : Config)
        (linters : List Invocation), Command.prepare fs cwd config tool = .ok (c, linters) →
        jobs = linters.map (fun i => ⟨i, attempt i⟩) →
        ∀ (order : List Nat) (results : List RunResult), Run jobs (start jobs) order (results.map some) →
          Command.runReply fs cwd attempt config tool =
            .ok (Command.replyTo results (Command.reportOf (.ofConfig c) (Detection.detect fs cwd) results)) := by
  refine ⟨fun order hperm => ?_, fun order p h => ⟨h.sound (sound_start jobs), h.isOver_iff, ?_, ?_⟩, ?_, ?_⟩
  · have hnodup : order.Nodup := hperm.nodup_iff.2 List.nodup_range
    have hruns : ∀ j ∈ order, (start jobs)[j]? = some none := fun j hj =>
      runs_start_iff.2 (List.mem_range.1 (hperm.subset hj))
    obtain ⟨p, hrun⟩ := exists_run (sound_start jobs) hnodup hruns
    exact ⟨p, hrun, hrun.isOver_iff.2 hperm⟩
  · intro hover
    obtain ⟨k, hk⟩ := List.mem_iff_getElem?.1 (not_not.1 hover)
    exact ⟨k, exists_step (h.sound (sound_start jobs)) hk⟩
  · intro hover
    refine ⟨jobs.map Job.result, h.eq_of_isOver hover, List.length_map _, fun k job hjob => ?_⟩
    rw [List.getElem?_map, hjob, Option.map_some]
  · intro k job order order' p p' h hover h' hover' j hj
    rw [h.eq_of_isOver hover, h'.eq_of_isOver hover']
    simp only [List.getElem?_map, List.getElem?_set_ne (Ne.symm hj)]
  · rintro fs cwd attempt config tool c linters hprepare rfl order results h
    have hresults : results = runAll attempt linters := by
      rw [eq_results_of_run h, List.map_map]
      rfl
    rw [Command.runReply_of_prepare hprepare, hresults]
    rfl

/-- The second of two linters is stopped before the first ends with a finding, and that finding is lost when the first
does not start. -/
theorem order_is_immaterial_ruff_typescript :
    let fs : Files := ⟨[(["ruff.toml"], .file []), (["tsconfig.json"], .file [])]⟩
    let linters : List Invocation :=
      [.standard .ruff (some "/ruff.toml"), .standard .typescript (some "/tsconfig.json")]
    let attempt : Invocation → Attempt := fun i =>
      if i.tool = .ruff then .ok { stdout := "[[\"F401\", \"a.py\", [1, 8], \"unused\"]]", exitCode := some 1 }
      else .error (.timeout 5)
    let jobs : List Job := linters.map fun i => ⟨i, attempt i⟩
    let broken : Job := ⟨.standard .ruff (some "/ruff.toml"), .error (.start "no such file")⟩
    (∃ half, Run jobs (start jobs) [1] half ∧ ¬IsOver half ∧ ∃ k q, Step jobs half k q) ∧
      Command.prepare fs "/" none none = .ok ({}, linters) ∧
      ∃ p p' results, Run jobs (start jobs) [1, 0] p ∧ IsOver p ∧
        Run (jobs.set 0 broken) (start (jobs.set 0 broken)) [0, 1] p' ∧ IsOver p' ∧ p'[1]? = p[1]? ∧
        p = results.map some ∧ results.length = 2 ∧
        Command.runReply fs "/" attempt none none =
          .ok (Command.replyTo results (Command.reportOf (.ofConfig {}) (Detection.detect fs "/") results)) := by
  intro fs linters attempt jobs broken
  have hmerged : ({} : Config).adjust (Detection.detect fs "/") = linters := by decide +kernel
  have hprepare : Command.prepare fs "/" none none = .ok ({}, linters) := by
    rw [Command.prepare_of_load (Command.load_of_not_hasPath (by decide +kernel)), hmerged]
    rfl
  obtain ⟨hruns, hall, hothers, hreply⟩ := order_is_immaterial jobs
  obtain ⟨half, hhalf⟩ : ∃ half, Run jobs (start jobs) [1] half :=
    exists_run (sound_start jobs) (by decide) (by decide)
  obtain ⟨-, hover, hnext, -⟩ := hall [1] half hhalf
  have hrest : ¬IsOver half := fun h => absurd (hover.1 h) (by decide)
  obtain ⟨p, hp, hpover⟩ := hruns [1, 0] (by decide)
  obtain ⟨p', hp', hpover'⟩ := (order_is_immaterial (jobs.set 0 broken)).1 [0, 1] (by decide)
  obtain ⟨results, rfl, hlength, -⟩ := (hall [1, 0] p hp).2.2.2 hpover
  exact ⟨⟨half, hhalf, hrest, hnext hrest⟩, hprepare, _, p', results, hp, hpover, hp', hpover',
    hothers 0 broken _ _ _ p' hp hpover hp' hpover' 1 (by decide), rfl, hlength,
    hreply fs "/" attempt none none {} linters hprepare rfl _ results hp⟩

end Progress

end LintGloss
