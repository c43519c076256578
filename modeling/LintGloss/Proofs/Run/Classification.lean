import LintGloss.Proofs.Run
import Mathlib.Data.List.TakeWhile
/-!
# How runs are judged

A run is judged by how its process ended (`Ending.IsNormal`, `Ending.TellsOfMissing`), and each ending has one judgement
(`judges_conclude`): what was done counts before what was said, and only a run that says neither that it is done nor
that its program is missing is an error.
-/

namespace LintGloss

/-! ## The first line of a text -/

namespace Text

theorem trim_eq_nil_iff {s : List Char} : trim s = [] ↔ ∀ c ∈ s, isBlank c = true := by
  constructor
  · intro h
    by_contra hne
    have hleft : trimLeft s ≠ [] := fun hnil => hne (List.dropWhile_eq_nil_iff.1 hnil)
    obtain ⟨c, rest, hc⟩ := List.exists_cons_of_ne_nil hleft
    -- the character that trimming on the left stops at stops trimming on the right as well
    have hblank : isBlank c = false := head_trimLeft (s := s) (by rw [hc]; rfl)
    rw [trim, trimRight, List.reverse_eq_nil_iff, List.dropWhile_eq_nil_iff] at h
    have := h c (by simp [hc])
    simp_all
  · intro h
    have hleft : trimLeft s = [] := List.dropWhile_eq_nil_iff.2 h
    rw [trim, hleft]
    rfl

/-- A line that is trimmed and in front of which all lines are blank. -/
def IsFirstLine (s line : String) : Prop :=
  ∃ before l after, lines s.toList = before ++ l :: after ∧ (∀ b ∈ before, ∀ c ∈ b, isBlank c = true) ∧
    (∃ c ∈ l, isBlank c = false) ∧ line = trimmed (String.ofList l)

theorem not_isBlank_iff {l : List Char} : (¬ ∀ c ∈ l, isBlank c = true) ↔ ∃ c ∈ l, isBlank c = false := by
  simp

end Text

theorem firstLine?_eq_some {s line : String} (h : firstLine? s = some line) : Text.IsFirstLine s line := by
  obtain ⟨trimmed, hfind, rfl⟩ := Option.map_eq_some_iff.1 h
  obtain ⟨hne, before, after, hsplit, hbefore⟩ := List.find?_eq_some_iff_append.1 hfind
  obtain ⟨before, rest, hlines, rfl, hrest⟩ := List.map_eq_append_iff.1 hsplit
  obtain ⟨l, after, rfl, rfl, -⟩ := List.map_eq_cons_iff.1 hrest
  refine ⟨before, l, after, hlines, fun b hb => ?_, ?_, ?_⟩
  · have hnil := hbefore _ (List.mem_map_of_mem hb)
    exact Text.trim_eq_nil_iff.1 (by simpa using hnil)
  · rw [← Text.not_isBlank_iff, ← Text.trim_eq_nil_iff]
    simpa using hne
  · rw [Text.trimmed, String.toList_ofList]

theorem firstLine?_eq_none_iff {s : String} :
    firstLine? s = none ↔ ∀ l ∈ Text.lines s.toList, ∀ c ∈ l, Text.isBlank c = true := by
  simp [firstLine?, Text.trim_eq_nil_iff]

/-! ## Endings -/

namespace Ending

/-- The process ended by itself, with an exit code of its tool's range. -/
def IsNormal (t : Tool) : Ending → Prop
  | exited _ _ exitCode => ∃ n : Int, exitCode = some n ∧ 0 ≤ n ∧ n ≤ if t = .typescript then 2 else 1
  | _ => False

/-- The system did not find what was to be started, or a shell says that it did not. -/
def TellsOfMissing : Ending → Prop
  | unstarted missing _ => missing = true
  | exited _ stderr exitCode => exitCode = some 127 ∨ ∃ before after : String,
      stderr = before ++ "command not found" ++ after ∨ stderr = before ++ "is not recognized" ++ after
  | _ => False

end Ending

theorem Text.isPartOf_toList_iff {part s : String} :
    isPartOf part.toList s.toList = true ↔ ∃ before after : String, s = before ++ part ++ after := by
  rw [isPartOf_iff]
  constructor
  · rintro ⟨before, after, h⟩
    refine ⟨String.ofList before, String.ofList after, String.toList_inj.1 ?_⟩
    simp [← h]
  · rintro ⟨before, after, rfl⟩
    exact ⟨before.toList, after.toList, by simp⟩

namespace Tool

variable {t : Tool} {exitCode : Option Int} {stdout stderr : String}

theorem greatestNormalExit_eq (t : Tool) : t.greatestNormalExit = if t = .typescript then 2 else 1 := by
  cases t <;> rfl

theorem endsNormally_iff : t.endsNormally exitCode = true ↔ (Ending.exited stdout stderr exitCode).IsNormal t := by
  simp only [endsNormally, Ending.IsNormal, greatestNormalExit_eq]
  cases exitCode <;> simp

theorem not_endsNormally_missingExit (t : Tool) : t.endsNormally (some missingExit) = false := by
  cases t <;> decide

theorem isMissing_iff : t.isMissing exitCode stderr = true ↔
    t.endsNormally exitCode = false ∧ (Ending.exited stdout stderr exitCode).TellsOfMissing := by
  have hsays : (missingMarkers.any fun m => Text.isPartOf m.toList stderr.toList) = true ↔ ∃ before after : String,
      stderr = before ++ "command not found" ++ after ∨ stderr = before ++ "is not recognized" ++ after := by
    simp only [missingMarkers, List.any_cons, List.any_nil, Bool.or_false, Bool.or_eq_true, Text.isPartOf_toList_iff,
      exists_or]
  rw [isMissing, Bool.or_eq_true, Bool.and_eq_true, hsays, beq_iff_eq, Ending.TellsOfMissing, Bool.not_eq_true']
  by_cases h : exitCode = some 127
  · subst h
    simp [missingExit, show t.endsNormally (some 127) = false from t.not_endsNormally_missingExit]
  · simp [missingExit, h]

end Tool

/-! ## Judgements -/

namespace Invocation

/-- What went wrong with a process that ended by itself or by a signal. -/
def Explains (i : Invocation) (stderr : String) (exitCode : Option Int) (text : String) : Prop :=
  ∃ exit detail,
    (exitCode = none ∧ exit = "killed by signal" ∨ ∃ n : Int, exitCode = some n ∧ exit = "exit code " ++ toString n) ∧
    (Text.IsFirstLine stderr detail ∨
      (∀ l ∈ Text.lines stderr.toList, ∀ c ∈ l, Text.isBlank c = true) ∧ detail = "no error output") ∧
    text = i.program ++ " failed (" ++ exit ++ "): " ++ detail

theorem ofInt_eq_toString (n : Int) : String.ofList (Decimal.ofInt n) = toString n := by
  cases n with
  | ofNat n => rfl
  | negSucc n =>
    have htext : toString (Int.negSucc n) = "-" ++ String.ofList (Decimal.digits (n + 1)) := rfl
    rw [htext, Decimal.ofInt]
    exact @String.ofList_append ['-'] _

theorem explains_brokenText (i : Invocation) (o : Output) : i.Explains o.stderr o.exitCode (i.brokenText o) := by
  refine ⟨exitText o.exitCode, _, ?_, ?_, rfl⟩
  · cases o.exitCode with
    | none => exact .inl ⟨rfl, rfl⟩
    | some n => exact .inr ⟨n, rfl, by rw [exitText, ofInt_eq_toString]⟩
  · cases hline : firstLine? o.stderr with
    | none => exact .inr ⟨firstLine?_eq_none_iff.1 hline, rfl⟩
    | some line => exact .inl (firstLine?_eq_some hline)

/-- The result of an attempt, for each of the three judgements. -/
inductive Concludes (i : Invocation) (e : Ending) : RunResult → Prop
  | success {stdout stderr : String} {exitCode : Option Int} (he : e = .exited stdout stderr exitCode)
    (hnormal : e.IsNormal i.tool) :
    Concludes i e ⟨i.tool, .success, i.tool.read (if stdout = "" then stderr else stdout), none, i.commandLine⟩
  | notFound (text : String) (hnormal : ¬ e.IsNormal i.tool) (hmissing : e.TellsOfMissing) :
    Concludes i e (i.failed .notFound text)
  | error (text : String) (hnormal : ¬ e.IsNormal i.tool) (hmissing : ¬ e.TellsOfMissing)
    (htext : ∀ stdout stderr exitCode, e = .exited stdout stderr exitCode → i.Explains stderr exitCode text) :
    Concludes i e (i.failed .error text)

/-- **Every ending has one of the three judgements.** -/
theorem concludes (i : Invocation) (e : Ending) : i.Concludes e (i.conclude (i.tool.attempt e)) := by
  cases e with
  | unstarted missing cause =>
    cases missing with
    | true => exact .notFound _ id rfl
    | false => exact .error _ id Bool.false_ne_true nofun
  | lost cause => exact .error _ id id nofun
  | stopped secs => exact .error _ id id nofun
  | exited stdout stderr exitCode =>
    simp only [Tool.attempt, conclude, interpret]
    by_cases hmissing : i.tool.isMissing exitCode stderr = true
    · obtain ⟨hend, htells⟩ : i.tool.endsNormally exitCode = false ∧
          (Ending.exited stdout stderr exitCode).TellsOfMissing := Tool.isMissing_iff.1 hmissing
      rw [if_pos hmissing]
      refine .notFound _ (fun hnormal => ?_) htells
      rw [Tool.endsNormally_iff.2 hnormal] at hend
      cases hend
    · rw [if_neg hmissing]
      by_cases hend : i.tool.endsNormally exitCode = true
      · rw [if_pos hend]
        exact .success rfl (Tool.endsNormally_iff.1 hend)
      · rw [if_neg hend]
        refine .error _ (fun hnormal => hend (Tool.endsNormally_iff.2 hnormal)) (fun htells => hmissing ?_) ?_
        · exact Tool.isMissing_iff.2 ⟨by simpa using hend, htells⟩
        · rintro _ _ _ ⟨⟩
          exact explains_brokenText i ⟨stdout, stderr, exitCode, _⟩

/-- How a result fits the ending that it is about. -/
structure Judges (i : Invocation) (e : Ending) (r : RunResult) : Prop where
  success_iff : r.status = .success ↔ e.IsNormal i.tool
  notFound_iff : r.status = .notFound ↔ ¬ e.IsNormal i.tool ∧ e.TellsOfMissing
  error_iff : r.status = .error ↔ ¬ e.IsNormal i.tool ∧ ¬ e.TellsOfMissing
  /-- The other stream is read if the first has nothing. -/
  violations_eq : r.status = .success → ∀ stdout stderr exitCode, e = .exited stdout stderr exitCode →
    r.violations = i.tool.read (if stdout = "" then stderr else stdout)
  explains : r.status = .error → ∀ stdout stderr exitCode, e = .exited stdout stderr exitCode →
    ∃ text, r.error = some text ∧ i.Explains stderr exitCode text
  tool_eq : r.tool = i.tool
  command_eq : r.command = i.commandLine
  isSome_error_iff : r.error.isSome ↔ r.status ≠ .success
  violations_eq_nil : r.status ≠ .success → r.violations = []

/-- **A run is judged by how its process ended**, and each ending in one way only. -/
theorem judges_conclude (i : Invocation) (e : Ending) : i.Judges e (i.conclude (i.tool.attempt e)) := by
  generalize hr : i.conclude (i.tool.attempt e) = r
  have hcases : i.Concludes e r := hr ▸ i.concludes e
  cases hcases with
  | success he hnormal =>
    refine ⟨iff_of_true rfl hnormal, iff_of_false (by simp) fun h => h.1 hnormal,
      iff_of_false (by simp) fun h => h.1 hnormal, fun _ stdout stderr exitCode he' => ?_, by simp, rfl, rfl, by simp,
      fun h => absurd rfl h⟩
    obtain ⟨rfl, rfl, rfl⟩ := Ending.exited.inj (he.symm.trans he')
    rfl
  | notFound text hnormal hmissing =>
    exact ⟨iff_of_false (by simp [failed]) hnormal, iff_of_true rfl ⟨hnormal, hmissing⟩,
      iff_of_false (by simp [failed]) fun h => h.2 hmissing, by simp [failed], by simp [failed], rfl, rfl,
      by simp [failed], fun _ => rfl⟩
  | error text hnormal hmissing htext =>
    exact ⟨iff_of_false (by simp [failed]) hnormal, iff_of_false (by simp [failed]) fun h => hmissing h.2,
      iff_of_true rfl ⟨hnormal, hmissing⟩, by simp [failed], fun _ stdout stderr exitCode he =>
        ⟨text, rfl, htext stdout stderr exitCode he⟩, rfl, rfl, by simp [failed], fun _ => rfl⟩

/-- What a shell says counts only if the process did not end as it does when its work is done. -/
theorem judges_conclude_ruff :
    let i := standard .ruff none
    let stderr := "sh: ruff: command not found"
    (i.conclude (i.tool.attempt (.exited "[]" stderr (some 1)))).status = .success ∧
      (i.conclude (i.tool.attempt (.exited "[]" stderr none))).status = .notFound := by
  intro i stderr
  refine ⟨(judges_conclude i _).success_iff.2 ⟨1, rfl, by decide, by decide⟩, ?_⟩
  refine (judges_conclude i _).notFound_iff.2 ⟨?_, .inr ⟨"sh: ruff: ", "", .inl rfl⟩⟩
  rintro ⟨n, ⟨⟩, -⟩

end Invocation

end LintGloss
