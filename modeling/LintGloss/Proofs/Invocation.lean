import LintGloss.Proofs.Linters
/-!
# Command lines

Every linter that runs is the standard invocation of its tool under what the configuration says of that tool
(`exists_standard_of_mem_adjust`).  Its arguments are therefore those of the tool, the configuration file that was asked
for, and the targets (`builds_commandLine`); where the linter was found has no part in them.
-/

namespace LintGloss

namespace Invocation

/-- The invocation under what is said of its tool, if anything is. -/
def under (i : Invocation) : Option Override → Invocation
  | none => i
  | some o => i.adjust o

def askedConfig (o : Option Override) : Option String := o.bind (·.config)

def askedPaths (o : Option Override) : Option (List String) := o.bind (·.paths)

/-- The invocation says what is asked for, and otherwise what is standard for its tool. -/
structure BuiltFor (i : Invocation) (o : Option Override) : Prop where
  explicitConfig_iff : i.explicitConfig = true ↔ (askedConfig o).isSome
  configPath_eq : ∀ path, askedConfig o = some path → i.configPath = some path
  args_of_asked : ∀ path, askedConfig o = some path → i.args = i.tool.formatArgs ++ [i.tool.configFlag, path] ++
    if i.tool = .typescript then [] else (askedPaths o).getD i.tool.targets
  /-- A file that was only found is not there. -/
  args_of_not_asked : askedConfig o = none → i.args = i.tool.formatArgs ++ (askedPaths o).getD i.tool.targets
  formatArgs_prefix : i.tool.formatArgs <+: i.args
  /-- One space in front of each argument. -/
  commandLine_eq : i.commandLine = i.tool.program ++ String.join (i.args.map (" " ++ ·))

theorem intercalate_cons (s t : String) : ∀ l : List String,
    s.intercalate (t :: l) = t ++ String.join (l.map (s ++ ·))
  | [] => by simp
  | u :: l => by
    rw [String.intercalate_cons_cons, intercalate_cons s u l, List.map_cons, String.join_cons]
    simp only [String.append_assoc]

theorem commandLine_eq_join (i : Invocation) : i.commandLine = i.program ++ String.join (i.args.map (" " ++ ·)) :=
  intercalate_cons " " i.program i.args

section Standard

variable (t : Tool) (found : Option String) (o : Option Override)

@[simp] theorem tool_under (i : Invocation) : (i.under o).tool = i.tool := by cases o <;> rfl

theorem program_under : ((standard t found).under o).program = t.program := by cases o <;> rfl

theorem explicitConfig_under : ((standard t found).under o).explicitConfig = (askedConfig o).isSome := by
  cases o <;> simp [under, askedConfig, standard, adjust]

theorem configPath_under : ((standard t found).under o).configPath = (askedConfig o <|> found) := by
  cases o <;> rfl

theorem targets_under : ((standard t found).under o).targets = (askedPaths o).getD t.targets := by cases o <;> rfl

theorem args_under : ((standard t found).under o).args =
    t.formatArgs ++ ((askedConfig o).elim [] fun path => [t.configFlag, path]) ++
      if (askedConfig o).isSome ∧ t = .typescript then [] else (askedPaths o).getD t.targets := by
  have hformat : ((standard t found).under o).formatArgs = t.formatArgs := by cases o <;> rfl
  have htool : ((standard t found).under o).tool = t := tool_under o _
  rw [args, configArgs, targetArgs, hformat, htool, explicitConfig_under, configPath_under, targets_under]
  cases askedConfig o <;> rfl

theorem builtFor_under : ((standard t found).under o).BuiltFor o where
  explicitConfig_iff := by rw [explicitConfig_under]
  configPath_eq path hpath := by rw [configPath_under, hpath]; rfl
  args_of_asked path hpath := by
    rw [args_under, hpath]
    simp [standard]
  args_of_not_asked hnone := by
    rw [args_under, hnone]
    simp [standard]
  formatArgs_prefix := by
    rw [args_under, List.append_assoc, tool_under]
    exact List.prefix_append _ _
  commandLine_eq := by
    rw [commandLine_eq_join, program_under, tool_under]
    rfl

end Standard

end Invocation

namespace Config

open Invocation (standard)

variable {c : Config} {fs fs' : Files} {cwd cwd' : String} {i j : Invocation}

theorem eq_under_of_keep? (h : c.keep? i = some j) : j = i.under (c.override? i.tool.name) := by
  rw [keep?] at h
  cases ho : c.override? i.tool.name with
  | none =>
    rw [ho] at h
    exact (Option.some.inj h).symm
  | some o =>
    rw [ho] at h
    exact (Option.some.inj (Option.ite_none_left_eq_some.1 h).2).symm

theorem eq_under_of_force? {t : Tool} (h : c.force? t = some j) :
    j = (standard t none).under (c.override? t.name) := by
  rw [force?] at h
  cases ho : c.override? t.name with
  | none =>
    rw [ho] at h
    cases h
  | some o =>
    rw [ho] at h
    exact (Option.some.inj (Option.ite_none_right_eq_some.1 h).2).symm

/-- **What runs is standard under what is said of it**, whether it was detected or is turned on. -/
theorem exists_standard_of_mem_adjust (h : i ∈ c.adjust (Detection.detect fs cwd)) :
    ∃ found, i = (standard i.tool found).under (c.override? i.tool.name) := by
  rcases List.mem_append.1 h with h | h
  · obtain ⟨d, hd, hi⟩ := List.mem_filterMap.1 h
    obtain ⟨found, hfound⟩ := Detection.exists_standard_of_mem_detect hd
    refine ⟨found, ?_⟩
    rw [tool_of_keep? hi, ← hfound]
    exact eq_under_of_keep? hi
  · obtain ⟨t, -, hi⟩ := List.mem_filterMap.1 h
    rw [tool_of_force? hi]
    exact ⟨none, eq_under_of_force? hi⟩

/-- **The command line of every linter that runs**: what its tool needs, then what is asked for. -/
theorem builds_commandLine (h : i ∈ c.adjust (Detection.detect fs cwd)) :
    i.BuiltFor (c.override? i.tool.name) ∧
      ∀ fs' cwd' j, j ∈ c.adjust (Detection.detect fs' cwd') → j.tool = i.tool → j.commandLine = i.commandLine := by
  obtain ⟨found, hi⟩ := exists_standard_of_mem_adjust h
  refine ⟨?_, fun fs' cwd' j hj htool => ?_⟩
  · rw [hi, Invocation.tool_under]
    exact Invocation.builtFor_under _ _ _
  · obtain ⟨found', hj⟩ := exists_standard_of_mem_adjust hj
    rw [hi, hj, htool, Invocation.commandLine_eq_join, Invocation.commandLine_eq_join, Invocation.program_under,
      Invocation.program_under, Invocation.args_under, Invocation.args_under]

/-- A compiler that was detected by one configuration and is asked to take another, with files that it does not take
beside it; and a linter that is turned on in one directory and detected in another. -/
theorem builds_commandLine_typescript :
    let fs : Files := ⟨[(["tsconfig.json"], .file []), (["ruff.toml"], .file [])]⟩
    let c : Config := { linters := [("typescript", { config := some "tsconfig.build.json", paths := some ["src"] }),
      ("ruff", { enabled := some true, paths := some ["src", "tests"] })] }
    let ruff := { Invocation.standard .ruff (some "/ruff.toml") with targets := ["src", "tests"] }
    let tsc := { Invocation.standard .typescript (some "tsconfig.build.json") with
      explicitConfig := true, targets := ["src"] }
    (tsc ∈ c.adjust (Detection.detect fs "/") ∧
      tsc.commandLine = "tsc --noEmit --pretty false --project tsconfig.build.json") ∧
      ruff ∈ c.adjust (Detection.detect fs "/") ∧ ruff.commandLine = "ruff check --output-format json src tests" ∧
      ∀ j ∈ c.adjust (Detection.detect {} "/"), j.tool = .ruff → j.commandLine = ruff.commandLine := by
  intro fs c ruff tsc
  have hadjust : c.adjust (Detection.detect fs "/") = [ruff, tsc] := by decide +kernel
  have htsc : tsc ∈ c.adjust (Detection.detect fs "/") := hadjust ▸ by simp
  have hruff : ruff ∈ c.adjust (Detection.detect fs "/") := hadjust ▸ by simp
  refine ⟨⟨htsc, ?_⟩, hruff, ?_, fun j hj htool => (builds_commandLine hruff).2 {} "/" j hj htool⟩
  · rw [(builds_commandLine htsc).1.commandLine_eq]
    decide +kernel
  · rw [(builds_commandLine hruff).1.commandLine_eq]
    decide +kernel

end Config

end LintGloss
