import LintGloss.Proofs.Command.Restriction
import LintGloss.Proofs.Document.Printing
import LintGloss.Proofs.Json.Unique
import LintGloss.Session
/-!
# The exit code is told by what is printed

The program prints one document, and its exit code is that of the document (`Exit.Shows`).  No text is printed for two
documents, so that two calls which print the same end with the same code (`stdout_tells_exitCode`).  A run goes wrong
whenever one of its linters does, also if there is nothing to report.
-/

namespace LintGloss

/-! ## Linters that do their work -/

/-- The linter was there, and it ended as it does when its work is done. -/
def Attempt.WentWell (t : Tool) : Attempt → Prop
  | .ok o => o.notFound = false ∧ t.endsNormally o.exitCode = true
  | .error _ => False

theorem Invocation.status_conclude_eq_success_iff (i : Invocation) (a : Attempt) :
    (i.conclude a).status = .success ↔ Attempt.WentWell i.tool a := by
  cases a with
  | error f => simp [conclude, failed, Attempt.WentWell]
  | ok o =>
    simp only [conclude, interpret, Attempt.WentWell]
    cases hmissing : o.notFound with
    | true => simp [failed]
    | false => cases hend : i.tool.endsNormally o.exitCode <;> simp [failed]

namespace Command

theorem exitCode_run_of_failure {fs : Files} {cwd : String} {attempt : Invocation → Attempt}
    {config tool : Option String} {i : Invocation} (hi : i ∈ started fs cwd config tool)
    (hfailed : ¬Attempt.WentWell i.tool (attempt i)) : exitCode (runReply fs cwd attempt config tool) = 1 := by
  cases hprepare : prepare fs cwd config tool with
  | error f =>
    rw [started_of_prepare_error hprepare] at hi
    cases hi
  | ok p =>
    obtain ⟨c, linters⟩ := p
    rw [started_of_prepare hprepare] at hi
    rw [runReply_of_prepare hprepare]
    have hresult : i.conclude (attempt i) ∈ runAll attempt linters := List.mem_map_of_mem hi
    refine (exitCode_eq_zero_or_one _).resolve_left fun hzero => hfailed ?_
    exact (i.status_conclude_eq_success_iff _).1 ((exitCode_replyTo_eq_zero_iff.1 hzero).2 _ hresult)

/-- What is left of the program after what a command came to. -/
def exit (c : Command) (r : Except Failure Reply) : Exit := ⟨text c.pretty r ++ "\n", exitCode r⟩

end Command

/-! ## What is printed -/

/-- The program prints one document of its command and a line feed, and ends with the exit code of the document. -/
structure Exit.Shows (e : Exit) (c : Command) (d : Document) : Prop where
  isOf : d.IsOf c
  code_eq : e.code = d.exitCode
  code_eq_zero_or_one : e.code = 0 ∨ e.code = 1
  prints : ∃ j : Json, e.stdout = j.render c.layout ++ "\n" ∧ Document.ofJson? j = some d ∧
    (d.Fits → Json.parse? e.stdout.toList = some j)

namespace Document

variable {d d' : Document} {c c' : Command} {r r' : Except Failure Reply}

theorem Answers.depth_printed_le (h : d.Answers r) : (Command.printed r).depth ≤ Json.Reader.depthLimit := by
  have hlimit : d.toJson.depth ≤ Json.Reader.depthLimit := Nat.le_trans (depth_toJson_le d) (by decide)
  rcases h.printed_eq with hprinted | hprinted
  · rw [hprinted]
    exact Nat.le_trans (Json.depth_sortKeys_le _) hlimit
  · rwa [hprinted]

theorem Answers.isPlain_printed (h : d.Answers r) (hfits : d.Fits) : (Command.printed r).IsPlain := by
  rcases h.printed_eq with hprinted | hprinted
  · rw [hprinted]
    exact (isPlain_toJson hfits).sortKeys
  · rw [hprinted]
    exact isPlain_toJson hfits

theorem Tells.ofJson?_printed (h : d.Tells c r) : ofJson? (Command.printed r) = some d := by
  rcases h.answers.printed_eq with hprinted | hprinted
  · rw [hprinted, ofJson?_sortKeys, ofJson?_toJson h.inOrder]
  · rw [hprinted, ofJson?_toJson h.inOrder]

theorem Tells.shows (h : d.Tells c r) : (c.exit r).Shows c d where
  isOf := h.isOf
  code_eq := h.exitCode_eq
  code_eq_zero_or_one := Command.exitCode_eq_zero_or_one r
  prints := by
    have hstdout : (c.exit r).stdout = (Command.printed r).render c.layout ++ "\n" := by
      rw [Command.exit, Command.text_pretty]
    refine ⟨Command.printed r, hstdout, h.ofJson?_printed, fun hfits => ?_⟩
    rw [hstdout, String.toList_append, Json.render, String.toList_ofList]
    exact Json.parse?_renderAt_lineFeed c.layout 0 (h.answers.isPlain_printed hfits) h.answers.depth_printed_le

/-- Documents that are printed alike are the same. -/
theorem Tells.eq_of_stdout_eq (h : d.Tells c r) (h' : d'.Tells c' r')
    (hstdout : (c.exit r).stdout = (c'.exit r').stdout) : d = d' := by
  have htext : (Command.printed r).render c.layout = (Command.printed r').render c'.layout := by
    rw [Command.exit, Command.exit, Command.text_pretty, Command.text_pretty] at hstdout
    exact (String.append_left_inj "\n").1 hstdout
  have hprinted : Command.printed r = Command.printed r' :=
    Json.eq_of_render_eq h.answers.depth_printed_le h'.answers.depth_printed_le htext
  refine Option.some.inj ?_
  rw [← h.ofJson?_printed, hprinted, h'.ofJson?_printed]

end Document

namespace Console

/-- What is left of the program after a command in a directory, or for the reason why there is no directory. -/
def exitIn (fs : Files) (directory : Except String String) (attempt : Invocation → Attempt) (c : Command) : Exit :=
  match directory with
  | .ok cwd => c.exit (c.execute fs cwd attempt).1
  | .error cause => c.exit (.error (.noDirectory cause))

theorem exists_tells (fs : Files) (directory : Except String String) (attempt : Invocation → Attempt) (c : Command) :
    ∃ (d : Document) (r : Except Failure Reply), d.Tells c r ∧ exitIn fs directory attempt c = c.exit r := by
  cases directory with
  | ok cwd =>
    obtain ⟨d, hd⟩ := @Document.exists_tells fs cwd attempt c
    exact ⟨d, _, hd, rfl⟩
  | error cause => exact ⟨_, _, Document.tells_ofFailure c (.noDirectory cause), rfl⟩

/-- **The exit code can be told from what is printed.**  Every command, also in a directory that is lost, prints one
document, whose exit code is zero or one and is the one that the program ends with; whatever prints the same ends with
the same code.  A run with a linter that did not do its work ends with one. -/
theorem stdout_tells_exitCode (fs : Files) (directory : Except String String) (attempt : Invocation → Attempt)
    (c : Command) :
    (∃ d, (exitIn fs directory attempt c).Shows c d) ∧
      (∀ fs' directory' attempt' c',
        (exitIn fs' directory' attempt' c').stdout = (exitIn fs directory attempt c).stdout →
          (exitIn fs' directory' attempt' c').code = (exitIn fs directory attempt c).code) ∧
      (∀ config tool pretty cwd i, c = .run config tool pretty → directory = .ok cwd →
        i ∈ Command.started fs cwd config tool → ¬Attempt.WentWell i.tool (attempt i) →
          (exitIn fs directory attempt c).code = 1) ∧
      (∀ environment words line cwd, CommandLine.parse environment words = .ok line → c = line.command →
        directory = .ok cwd → (run fs cwd attempt environment words).1 = exitIn fs directory attempt c) ∧
      ∀ s : Session, s.directory = none → directory = .error FileError.missing.message →
        c.exit (s.execute c).1 = exitIn fs directory attempt c := by
  obtain ⟨d, r, hd, hexit⟩ := exists_tells fs directory attempt c
  refine ⟨⟨d, hexit ▸ hd.shows⟩, ?_, ?_, ?_, ?_⟩
  · intro fs' directory' attempt' c' hstdout
    obtain ⟨d', r', hd', hexit'⟩ := exists_tells fs' directory' attempt' c'
    rw [hexit, hexit'] at hstdout
    rw [hexit, hexit', hd.shows.code_eq, hd'.shows.code_eq, hd'.eq_of_stdout_eq hd hstdout]
  · rintro config tool pretty cwd i rfl rfl hi hfailed
    exact Command.exitCode_run_of_failure hi hfailed
  · rintro environment words line cwd hline rfl rfl
    simp only [run, hline]
    rfl
  · rintro s hlost rfl
    rw [Session.execute, hlost]
    rfl

/-- A compiler that a signal ends without a word, and a directory that is lost, of which two commands say the same. -/
theorem stdout_tells_exitCode_typescript :
    let fs : Files := ⟨[(["tsconfig.json"], .file [])]⟩
    let i : Invocation := .standard .typescript (some "/tsconfig.json")
    let attempt : Invocation → Attempt := fun _ => .ok { exitCode := none }
    let c : Command := .run none none true
    let e := exitIn fs (.ok "/") attempt c
    let lost : Except String String := .error FileError.missing.message
    let s : Session := ⟨{ files := fs }, none⟩
    ((∃ d, e.Shows c d) ∧ i ∈ Command.started fs "/" none none ∧ ¬Attempt.WentWell i.tool (attempt i) ∧ e.code = 1) ∧
      (CommandLine.parse none ["run", "--pretty"] = .ok ⟨c, "warn"⟩ ∧
        (run fs "/" attempt none ["run", "--pretty"]).1 = e) ∧
      c.exit (s.execute c).1 = exitIn fs lost attempt c ∧
      (exitIn {} lost attempt (.validate none true)).stdout = (exitIn fs lost attempt c).stdout ∧
      (exitIn {} lost attempt (.validate none true)).code = (exitIn fs lost attempt c).code := by
  intro fs i attempt c e lost s
  have hmerged : ({} : Config).adjust (Detection.detect fs "/") = [i] := by decide +kernel
  have hprepare : Command.prepare fs "/" none none = .ok ({}, [i]) := by
    rw [Command.prepare_of_load (Command.load_of_not_hasPath (by decide +kernel)), hmerged]
    rfl
  have hstarted : i ∈ Command.started fs "/" none none := by
    rw [Command.started_of_prepare hprepare]
    exact List.mem_singleton_self i
  have hkilled : ¬Attempt.WentWell i.tool (attempt i) := by
    rintro ⟨-, hend⟩
    cases hend
  have hline : CommandLine.parse none ["run", "--pretty"] = .ok ⟨c, "warn"⟩ := by decide
  obtain ⟨hshows, -, hfailed, hrun, -⟩ := stdout_tells_exitCode fs (.ok "/") attempt c
  obtain ⟨-, hsame, -, -, hsession⟩ := stdout_tells_exitCode fs lost attempt c
  have hstdout : (exitIn {} lost attempt (.validate none true)).stdout = (exitIn fs lost attempt c).stdout := rfl
  exact ⟨⟨hshows, hstarted, hkilled, hfailed none none true "/" i rfl rfl hstarted hkilled⟩,
    ⟨hline, hrun none _ _ "/" hline rfl rfl⟩, hsession s rfl rfl, hstdout, hsame {} lost attempt _ hstdout⟩

end Console

end LintGloss
