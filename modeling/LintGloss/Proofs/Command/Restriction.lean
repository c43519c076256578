import LintGloss.Proofs.Command
import LintGloss.Proofs.Config.Reading
import LintGloss.Proofs.Report.Body
import LintGloss.Proofs.Run
/-!
# A run of one linter

A run that is asked for one linter is the run of all linters restricted to it: what the others do makes no difference.
What can be wrong is found out in a fixed order, first the configuration and then the choice of linters, and before
anything is started (`run_tool_restricts`).
-/

namespace LintGloss

/-! ## Results of one tool -/

theorem flatMap_violations_filter (name : String) : ∀ {rs : List RunResult}, (∀ r ∈ rs, r.Sound) →
    (rs.filter fun r => r.tool.name = name).flatMap (·.violations) =
      (rs.flatMap (·.violations)).filter fun v => v.tool.name = name
  | [], _ => rfl
  | r :: rs, hs => by
    have ih := flatMap_violations_filter name fun r' hr => hs r' (List.mem_cons_of_mem r hr)
    have hsound := hs r List.mem_cons_self
    rw [List.flatMap_cons, List.filter_append, ← ih]
    by_cases hname : r.tool.name = name
    · have hall : r.violations.filter (fun v => v.tool.name = name) = r.violations :=
        List.filter_eq_self.2 fun v hv => by simp [hsound.tool_eq v hv, hname]
      rw [hall, List.filter_cons_of_pos (by simpa using hname), List.flatMap_cons]
    · have hnone : r.violations.filter (fun v => v.tool.name = name) = [] :=
        List.filter_eq_nil_iff.2 fun v hv => by simp [hsound.tool_eq v hv, hname]
      rw [hnone, List.filter_cons_of_neg (by simpa using hname), List.nil_append]

theorem runAll_filter (attempt : Invocation → Attempt) (name : String) (is : List Invocation) :
    runAll attempt (is.filter fun i => i.tool.name = name) =
      (runAll attempt is).filter fun r => r.tool.name = name := by
  simp [runAll, List.filter_map, Function.comp_def]

namespace Report

/-- The report holds what another holds of one linter, and counts that alone. -/
structure Restricts (part full : Report) (name : String) : Prop where
  violations_eq : part.violations = full.violations.filter fun g => g.violation.tool.name = name
  results_eq : part.results = full.results.filter fun s => s.name = name
  detected_eq : part.detected = full.detected
  summary_eq : part.summary = .ofGlossed part.violations

theorem restricts_reportOf (table : RuleTable) (detected : List Invocation) {results : List RunResult}
    (hs : ∀ r ∈ results, r.Sound) (name : String) :
    (Command.reportOf table detected (results.filter fun r => r.tool.name = name)).Restricts
      (Command.reportOf table detected results) name where
  violations_eq := by
    simp only [Command.reportOf, assemble, gloss]
    rw [flatMap_violations_filter name hs, List.filter_map]
    rfl
  results_eq := by
    simp only [Command.reportOf, assemble]
    rw [List.filter_map]
    rfl
  detected_eq := rfl
  summary_eq := rfl

end Report

namespace Command

/-! ## Before anything is started -/

variable {fs : Files} {cwd : String} {attempt : Invocation → Attempt} {config tool : Option String}

/-- The configuration and the linters of a run, if nothing is wrong with them. -/
def prepare (fs : Files) (cwd : String) (config tool : Option String) : Except Failure (Config × List Invocation) := do
  let c ← (Config.load fs (Config.pathIn cwd config)).mapError .ofConfig
  let linters ← selection (c.adjust (Detection.detect fs cwd)) tool
  return (c, linters)

def started (fs : Files) (cwd : String) (config tool : Option String) : List Invocation :=
  match prepare fs cwd config tool with
  | .ok (_, linters) => linters
  | .error _ => []

/-- The results of all linters, each of which is started by an action. -/
def runAllVia {m : Type → Type} [Monad m] (start : Invocation → m Attempt) (is : List Invocation) :
    m (List RunResult) := is.mapM fun i => return i.conclude (← start i)

def runVia {m : Type → Type} [Monad m] (fs : Files) (cwd : String) (start : Invocation → m Attempt)
    (config tool : Option String) : m (Except Failure Reply) :=
  match prepare fs cwd config tool with
  | .error f => return .error f
  | .ok (c, linters) => do
    let results ← runAllVia start linters
    return .ok (replyTo results (reportOf (.ofConfig c) (Detection.detect fs cwd) results))

/-- Takes down which linters are started. -/
def logged (attempt : Invocation → Attempt) (i : Invocation) : StateM (List Invocation) Attempt :=
  fun log => (attempt i, log ++ [i])

theorem run_runAllVia_logged (attempt : Invocation → Attempt) : ∀ is log : List Invocation,
    (runAllVia (logged attempt) is).run log = (runAll attempt is, log ++ is)
  | [], log => by rw [List.append_nil]; rfl
  | i :: is, log => by
    have ih := run_runAllVia_logged attempt is (log ++ [i])
    rw [List.append_assoc, List.singleton_append] at ih
    rw [runAllVia, List.mapM_cons, StateT.run_bind, StateT.run_bind, ← runAllVia]
    show (runAllVia (logged attempt) is >>= fun rs => pure (i.conclude (attempt i) :: rs)).run (log ++ [i]) = _
    rw [StateT.run_bind, ih]
    rfl

theorem prepare_of_load {c : Config} (h : Config.load fs (Config.pathIn cwd config) = .ok c) :
    prepare fs cwd config tool =
      (selection (c.adjust (Detection.detect fs cwd)) tool).map fun linters => (c, linters) := by
  rw [prepare, h]
  show (selection (c.adjust (Detection.detect fs cwd)) tool).bind (fun linters => .ok (c, linters)) = _
  cases selection (c.adjust (Detection.detect fs cwd)) tool <;> rfl

theorem prepare_of_load_error {e : ConfigError} (h : Config.load fs (Config.pathIn cwd config) = .error e) :
    prepare fs cwd config tool = .error (.ofConfig e) := by
  rw [prepare, h]
  rfl

theorem runReply_eq_prepare :
    runReply fs cwd attempt config tool =
      (prepare fs cwd config tool).map fun p => replyFor fs cwd attempt p.1 p.2 := by
  cases hload : Config.load fs (Config.pathIn cwd config) with
  | error e =>
    rw [runReply_of_load_error hload, prepare_of_load_error hload]
    rfl
  | ok c =>
    rw [runReply_of_load hload, prepare_of_load hload, proceed]
    cases selection (c.adjust (Detection.detect fs cwd)) tool <;> rfl

section Prepared

variable {c : Config} {linters : List Invocation} {f : Failure}

theorem runReply_of_prepare (h : prepare fs cwd config tool = .ok (c, linters)) :
    runReply fs cwd attempt config tool = .ok (replyFor fs cwd attempt c linters) := by
  rw [runReply_eq_prepare, h]
  rfl

theorem runReply_of_prepare_error (h : prepare fs cwd config tool = .error f) :
    runReply fs cwd attempt config tool = .error f := by
  rw [runReply_eq_prepare, h]
  rfl

theorem started_of_prepare (h : prepare fs cwd config tool = .ok (c, linters)) :
    started fs cwd config tool = linters := by
  unfold started
  rw [h]

theorem started_of_prepare_error (h : prepare fs cwd config tool = .error f) : started fs cwd config tool = [] := by
  unfold started
  rw [h]

end Prepared

/-- A run that starts its linters one by one comes to the same reply, and has started those that were chosen. -/
theorem run_runVia_logged (log : List Invocation) :
    (runVia fs cwd (logged attempt) config tool).run log =
      (runReply fs cwd attempt config tool, log ++ started fs cwd config tool) := by
  unfold runVia
  cases h : prepare fs cwd config tool with
  | error f =>
    rw [runReply_of_prepare_error h, started_of_prepare_error h, List.append_nil]
    rfl
  | ok p =>
    obtain ⟨c, linters⟩ := p
    rw [runReply_of_prepare h, started_of_prepare h]
    dsimp only
    rw [StateT.run_bind, run_runAllVia_logged]
    rfl

/-- **A run that fails has started nothing.** -/
theorem started_of_error {f : Failure} (h : runReply fs cwd attempt config tool = .error f) :
    started fs cwd config tool = [] := by
  cases hprepare : prepare fs cwd config tool with
  | error f => exact started_of_prepare_error hprepare
  | ok p =>
    obtain ⟨c, linters⟩ := p
    rw [runReply_of_prepare hprepare] at h
    cases h

/-! ## The choice of linters -/

/-- What can be wrong with a run whose configuration is read. -/
structure Chooses (fs : Files) (cwd : String) (attempt : Invocation → Attempt) (config : Option String) (c : Config)
    (name : String) : Prop where
  notFound_iff : (∃ f, runReply fs cwd attempt config (some name) = .error f ∧ f.code = "LINTER_NOT_FOUND") ↔
    ∀ i ∈ c.adjust (Detection.detect fs cwd), i.tool.name ≠ name
  only_notFound : ∀ f, runReply fs cwd attempt config (some name) = .error f → f.code = "LINTER_NOT_FOUND"
  noLinters_iff : (∃ f, runReply fs cwd attempt config none = .error f ∧ f.code = "NO_LINTERS") ↔
    c.adjust (Detection.detect fs cwd) = []
  only_noLinters : ∀ f, runReply fs cwd attempt config none = .error f → f.code = "NO_LINTERS"
  /-- The name is that of a tool that is not turned off, and that was detected or is turned on. -/
  named_iff : (∃ i ∈ c.adjust (Detection.detect fs cwd), i.tool.name = name) ↔
    ∃ t : Tool, t.name = name ∧ c.enabled? t ≠ some false ∧
      (t ∈ toolsOf (Detection.detect fs cwd) ∨ c.enabled? t = some true)

theorem chooses_of_load {c : Config} (hc : Config.load fs (Config.pathIn cwd config) = .ok c) (name : String) :
    Chooses fs cwd attempt config c name := by
  have hsome (f : Failure) : runReply fs cwd attempt config (some name) = .error f ↔
      (∀ i ∈ c.adjust (Detection.detect fs cwd), i.tool.name ≠ name) ∧ f = .linterNotFound name := by
    rw [runReply_of_load hc, proceed_eq_error_iff, selection_some_eq_error_iff]
  have hnone (f : Failure) : runReply fs cwd attempt config none = .error f ↔
      c.adjust (Detection.detect fs cwd) = [] ∧ f = .noLinters := by
    rw [runReply_of_load hc, proceed_eq_error_iff, selection_none_eq_error_iff]
  constructor
  · constructor
    · rintro ⟨f, hf, -⟩
      exact ((hsome f).1 hf).1
    · exact fun hall => ⟨_, (hsome _).2 ⟨hall, rfl⟩, rfl⟩
  · intro f hf
    rw [((hsome f).1 hf).2, Failure.code]
  · constructor
    · rintro ⟨f, hf, -⟩
      exact ((hnone f).1 hf).1
    · exact fun hnil => ⟨_, (hnone _).2 ⟨hnil, rfl⟩, rfl⟩
  · intro f hf
    rw [((hnone f).1 hf).2, Failure.code]
  · constructor
    · rintro ⟨i, hi, hname⟩
      exact ⟨i.tool, hname, Config.mem_toolsOf_adjust.1 (List.mem_map_of_mem hi)⟩
    · rintro ⟨t, hname, ht⟩
      obtain ⟨i, hi, rfl⟩ := List.mem_map.1 (Config.mem_toolsOf_adjust.2 ht)
      exact ⟨i, hi, hname⟩

/-! ## Restriction -/

/-- Of linters with distinct tools one at most has a name. -/
theorem exists_filter_eq_singleton {linters : List Invocation} {name : String} (hn : (toolsOf linters).Nodup)
    (h : (linters.filter fun i => i.tool.name = name) ≠ []) :
    ∃ i, (linters.filter fun i => i.tool.name = name) = [i] := by
  have hnames : ∀ i ∈ linters.filter (fun i => i.tool.name = name), i.tool.name = name := fun i hi => by
    simpa using (List.mem_filter.1 hi).2
  have hsub : (toolsOf (linters.filter fun i => i.tool.name = name)).Nodup :=
    (List.filter_sublist.map _).nodup hn
  rcases hl : linters.filter (fun i => i.tool.name = name) with _ | ⟨i, _ | ⟨j, rest⟩⟩
  · exact absurd hl h
  · exact ⟨i, hl⟩
  · rw [hl] at hnames hsub
    have hi := hnames i List.mem_cons_self
    have hj := hnames j (List.mem_cons_of_mem i List.mem_cons_self)
    have hij : i.tool = j.tool := Tool.name_injective (hi.trans hj.symm)
    simp [toolsOf, hij] at hsub

/-- The run of one linter goes well exactly if the linter did its work and found nothing. -/
theorem exitCode_replyFor_singleton {c : Config} {i : Invocation} :
    exitCode (.ok (replyFor fs cwd attempt c [i])) = 0 ↔
      (i.conclude (attempt i)).status = .success ∧
        (reportOf (.ofConfig c) (Detection.detect fs cwd) (runAll attempt [i])).violations = [] := by
  rw [replyFor, exitCode_replyTo_eq_zero_iff, and_comm]
  simp [runAll]

theorem exists_restricted {name : String} {r : Reply} (h : runReply fs cwd attempt config (some name) = .ok r) :
    ∃ all part full s, runReply fs cwd attempt config none = .ok all ∧ Report.ofJson? r.body = some part ∧
      Report.ofJson? all.body = some full ∧ part.Restricts full name ∧ part.results = [s] ∧
        (exitCode (.ok r) = 0 ↔ s.status = .success ∧ part.violations = []) := by
  cases hload : Config.load fs (Config.pathIn cwd config) with
  | error e =>
    rw [runReply_of_load_error hload] at h
    cases h
  | ok c =>
    rw [runReply_of_load hload] at h ⊢
    obtain ⟨chosen, hchosen, rfl⟩ := proceed_eq_ok_iff.1 h
    obtain ⟨hne, rfl⟩ := selection_some_eq_ok_iff.1 hchosen
    generalize hmerged : c.adjust (Detection.detect fs cwd) = merged at hne hchosen
    have hn : (toolsOf merged).Nodup := hmerged ▸ c.nodup_tools_adjust (Detection.nodup_tools_detect fs cwd)
    obtain ⟨i, hi⟩ := exists_filter_eq_singleton hn hne
    -- a run of all linters has at least the one that is asked for
    have hall : proceed fs cwd attempt c none = .ok (replyFor fs cwd attempt c merged) := by
      refine proceed_eq_ok_iff.2 ⟨merged, ?_, rfl⟩
      rw [hmerged]
      refine selection_none_eq_ok_iff.2 ⟨?_, rfl⟩
      rintro rfl
      exact hne rfl
    have hsound : ∀ r ∈ runAll attempt merged, r.Sound := fun r hr => sound_of_mem_runAll hr
    have hrestricts := Report.restricts_reportOf (.ofConfig c) (Detection.detect fs cwd) hsound name
    rw [← runAll_filter] at hrestricts
    refine ⟨_, _, _, .ofResult (i.conclude (attempt i)), hall, Report.ofJson?_sortKeys_assemble _ _ _,
      Report.ofJson?_sortKeys_assemble _ _ _, hrestricts, ?_, ?_⟩
    · rw [hi]
      rfl
    · rw [hi]
      exact exitCode_replyFor_singleton

/-- **A run of one linter is the full run restricted to it**, and what is wrong with a run is found out in order: first
the configuration, then the choice of linters, and both before a linter is started. -/
theorem run_tool_restricts (fs : Files) (cwd : String) (attempt : Invocation → Attempt) (config : Option String)
    (name : String) :
    (∀ e, Config.load fs (Config.pathIn cwd config) = .error e →
      ∀ tool, FailsWith (runReply fs cwd attempt config tool) "INVALID_CONFIG" e.message) ∧
      (∀ c, Config.load fs (Config.pathIn cwd config) = .ok c → Chooses fs cwd attempt config c name) ∧
      (∀ tool, (runVia fs cwd (logged attempt) config tool).run [] =
          (runReply fs cwd attempt config tool, started fs cwd config tool) ∧
        ∀ f, runReply fs cwd attempt config tool = .error f → started fs cwd config tool = []) ∧
      ∀ r, runReply fs cwd attempt config (some name) = .ok r →
        ∃ all part full s, runReply fs cwd attempt config none = .ok all ∧ Report.ofJson? r.body = some part ∧
          Report.ofJson? all.body = some full ∧ part.Restricts full name ∧ part.results = [s] ∧
            (exitCode (.ok r) = 0 ↔ s.status = .success ∧ part.violations = []) := by
  refine ⟨fun e he tool => ?_, fun c hc => chooses_of_load hc name, fun tool => ⟨?_, fun f hf => ?_⟩, fun r hr => ?_⟩
  · rw [runReply_of_load_error he]
    exact failsWith_error (.ofConfig e)
  · rw [run_runVia_logged, List.nil_append]
  · exact started_of_error hf
  · exact exists_restricted hr

/-- Two linters are detected; one finds something, and the other, which is asked for, does not.  A configuration that is
no text comes before a linter that there is not. -/
theorem run_tool_restricts_typescript :
    let fs : Files := ⟨[(["ruff.toml"], .file []), (["tsconfig.json"], .file []), (["bad"], .file [0xff])]⟩
    let attempt : Invocation → Attempt := fun i =>
      if i.tool = .ruff then .ok { stdout := "[[\"F401\", \"a.py\", [1, 8], \"unused\"]]", exitCode := some 1 }
      else .ok { exitCode := some 0 }
    let e : ConfigError := .unreadable "/bad" "stream did not contain valid UTF-8"
    (Config.load fs (Config.pathIn "/" (some "bad")) = .error e ∧
      FailsWith (runReply fs "/" attempt (some "bad") (some "mypy")) "INVALID_CONFIG" e.message) ∧
      (Config.load fs (Config.pathIn "/" none) = .ok {} ∧ Chooses fs "/" attempt none {} "typescript") ∧
      ∃ r all part full s, runReply fs "/" attempt none (some "typescript") = .ok r ∧
        runReply fs "/" attempt none none = .ok all ∧ Report.ofJson? r.body = some part ∧
        Report.ofJson? all.body = some full ∧ part.Restricts full "typescript" ∧ part.results = [s] ∧
        (exitCode (.ok r) = 0 ↔ s.status = .success ∧ part.violations = []) := by
  intro fs attempt e
  have hbad : Config.load fs (Config.pathIn "/" (some "bad")) = .error e := by
    have hpath : Config.pathIn "/" (some "bad") = "/bad" := by decide +kernel
    have hread : fs.readText "/bad" = .error .notText := by decide +kernel
    rw [hpath]
    exact Config.load_of_readText_error (by decide +kernel) hread
  have hload : Config.load fs (Config.pathIn "/" none) = .ok {} := load_of_not_hasPath (by decide +kernel)
  have hmerged : ({} : Config).adjust (Detection.detect fs "/") =
      [.standard .ruff (some "/ruff.toml"), .standard .typescript (some "/tsconfig.json")] := by decide +kernel
  have hrun : runReply fs "/" attempt none (some "typescript") =
      .ok (replyFor fs "/" attempt {} [.standard .typescript (some "/tsconfig.json")]) := by
    rw [runReply_of_load hload]
    refine proceed_eq_ok_iff.2 ⟨_, ?_, rfl⟩
    rw [hmerged]
    exact selection_some_eq_ok_iff.2 ⟨List.cons_ne_nil _ _, by decide +kernel⟩
  obtain ⟨hinvalid, -, -, -⟩ := run_tool_restricts fs "/" attempt (some "bad") "mypy"
  obtain ⟨-, hchooses, -, hrestricts⟩ := run_tool_restricts fs "/" attempt none "typescript"
  obtain ⟨all, part, full, s, hall⟩ := hrestricts _ hrun
  exact ⟨⟨hbad, hinvalid e hbad _⟩, ⟨hload, hchooses {} hload⟩, ⟨_, all, part, full, s, hrun, hall⟩⟩

end Command

end LintGloss
