import LintGloss.Proofs.Keyed
import LintGloss.Proofs.Linters
import Mathlib.Data.List.Basic
/-!
# Adjusting linter by linter

A configuration decides about each linter by what it says of that one alone (`invocationOf?_adjust`).  The linters that
were detected keep their order and those that are turned on come behind them (`toolsOf_adjust`), and what has been
adjusted stays as it is when it is adjusted again (`adjust_adjust`).
-/

namespace LintGloss

/-! ## One linter among others -/

def invocationOf? (t : Tool) (is : List Invocation) : Option Invocation := is.find? (·.tool = t)

theorem invocationOf?_eq_none_iff {t : Tool} {is : List Invocation} :
    invocationOf? t is = none ↔ t ∉ toolsOf is := by
  simp [invocationOf?, toolsOf]

theorem tool_of_invocationOf? {t : Tool} {is : List Invocation} {i : Invocation} (h : invocationOf? t is = some i) :
    i.tool = t := by
  simpa using List.find?_some h

theorem invocationOf?_append (t : Tool) (is js : List Invocation) :
    invocationOf? t (is ++ js) = (invocationOf? t is <|> invocationOf? t js) := by
  rw [invocationOf?, List.find?_append, Option.or_eq_orElse]
  rfl

/-- A choice that is made by the tool keeps the tools for which it is made. -/
theorem toolsOf_filterMap {α : Type} (tool : α → Tool) (f : α → Option Invocation) (p : Tool → Bool)
    (htool : ∀ a i, f a = some i → i.tool = tool a) (hp : ∀ a, (f a).isSome = p (tool a)) : ∀ l : List α,
    toolsOf (l.filterMap f) = (l.map tool).filter p
  | [] => rfl
  | a :: l => by
    have ih := toolsOf_filterMap tool f p htool hp l
    have ha := hp a
    cases h : f a with
    | none =>
      rw [h] at ha
      rw [List.filterMap_cons_none h, List.map_cons, List.filter_cons_of_neg (by simp [← ha]), ih]
    | some i =>
      rw [h] at ha
      rw [List.filterMap_cons_some h, List.map_cons, List.filter_cons_of_pos ha.symm, ← ih, ← htool a i h]
      rfl

/-- Of what is made for some tools, the invocation of a tool is what is made for it. -/
theorem invocationOf?_filterMap {f : Tool → Option Invocation} (hf : ∀ t i, f t = some i → i.tool = t) (t : Tool) :
    ∀ ts : List Tool, invocationOf? t (ts.filterMap f) = if t ∈ ts then f t else none
  | [] => rfl
  | s :: ts => by
    have ih := invocationOf?_filterMap hf t ts
    cases hs : f s with
    | none =>
      rw [List.filterMap_cons_none hs, ih]
      by_cases hts : t = s
      · simp [hts, hs]
      · simp [hts]
    | some j =>
      have hj : j.tool = s := hf s j hs
      rw [List.filterMap_cons_some hs]
      by_cases hts : t = s
      · simp [invocationOf?, hj, hts, hs]
      · have hne : j.tool ≠ t := fun h => hts (h.symm.trans hj)
        have hnext : invocationOf? t (j :: ts.filterMap f) = invocationOf? t (ts.filterMap f) := by
          simp [invocationOf?, hne]
        rw [hnext, ih]
        simp [hts]

/-! ## What an override does to an invocation -/

/-- The invocation says what the override says, and what the other one says where the override is silent. -/
structure Invocation.Follows (j : Invocation) (o : Override) (i : Invocation) : Prop where
  config : ∀ path, o.config = some path → j.configPath = some path ∧ j.explicitConfig = true
  noConfig : o.config = none → j.configPath = i.configPath ∧ j.explicitConfig = i.explicitConfig
  paths : ∀ targets, o.paths = some targets → j.targets = targets
  noPaths : o.paths = none → j.targets = i.targets
  timeout : ∀ secs, o.timeoutSecs = some secs → j.timeoutSecs = some secs
  noTimeout : o.timeoutSecs = none → j.timeoutSecs = i.timeoutSecs
  tool_eq : j.tool = i.tool
  program_eq : j.program = i.program
  formatArgs_eq : j.formatArgs = i.formatArgs

theorem Invocation.follows_adjust (i : Invocation) (o : Override) : (i.adjust o).Follows o i := by
  constructor <;> intros <;> simp_all [adjust]

theorem Invocation.adjust_adjust (i : Invocation) (o : Override) : (i.adjust o).adjust o = i.adjust o := by
  obtain ⟨enabled, config, paths, timeoutSecs⟩ := o
  cases config <;> cases paths <;> cases timeoutSecs <;> rfl

/-- What becomes of a tool, by how it was detected and by what is said of it. -/
def Tool.outcome (t : Tool) : Option Invocation → Option Override → Option Invocation
  | detected, none => detected
  | some i, some o => if o.enabled = some false then none else some (i.adjust o)
  | none, some o => if o.enabled = some true then some ((Invocation.standard t none).adjust o) else none

namespace Config

variable {c c' : Config} {t : Tool} {detected : List Invocation}

theorem keep?_eq_outcome (c : Config) (i : Invocation) :
    c.keep? i = i.tool.outcome (some i) (c.override? i.tool.name) := by
  rw [keep?]
  cases c.override? i.tool.name <;> rfl

theorem force?_eq_outcome (c : Config) (t : Tool) : c.force? t = t.outcome none (c.override? t.name) := by
  rw [force?]
  cases c.override? t.name <;> rfl

theorem isSome_keep? (c : Config) (i : Invocation) :
    (c.keep? i).isSome = decide (c.enabled? i.tool ≠ some false) := by
  rw [Bool.eq_iff_iff, decide_eq_true_iff]
  exact isSome_keep?_iff

theorem isSome_force? (c : Config) (t : Tool) : (c.force? t).isSome = decide (c.enabled? t = some true) := by
  rw [Bool.eq_iff_iff, decide_eq_true_iff]
  exact isSome_force?_iff

/-! ## The order of the linters -/

/-- **First come the linters that were detected, in their order**, but for those that are turned off, and then those that
are turned on without having been detected. -/
theorem toolsOf_adjust (c : Config) (detected : List Invocation) :
    toolsOf (c.adjust detected) = ((toolsOf detected).filter fun t => c.enabled? t ≠ some false) ++
      [Tool.ruff, Tool.pyright, Tool.eslint, Tool.typescript].filter fun t =>
        t ∉ toolsOf detected ∧ c.enabled? t = some true := by
  have hkept := toolsOf_filterMap (·.tool) c.keep? (fun t => c.enabled? t ≠ some false)
    (fun _ _ h => tool_of_keep? h) c.isSome_keep? detected
  have hforced := toolsOf_filterMap id c.force? (fun t => c.enabled? t = some true)
    (fun _ _ h => tool_of_force? h) c.isSome_force? (Tool.all.filter fun t => t ∉ detected.map (·.tool))
  rw [List.map_id, List.filter_filter] at hforced
  rw [toolsOf, adjust, List.map_append]
  refine congrArg₂ (· ++ ·) hkept (hforced.trans (List.filter_congr fun t _ => ?_))
  rw [toolsOf, Bool.decide_and, Bool.and_comm]

/-! ## Each linter for itself -/

theorem invocationOf?_filterMap_keep? (c : Config) (t : Tool) : ∀ detected : List Invocation,
    invocationOf? t (detected.filterMap c.keep?) = (invocationOf? t detected).bind c.keep?
  | [] => rfl
  | i :: detected => by
    have ih := invocationOf?_filterMap_keep? c t detected
    by_cases hi : i.tool = t
    · have hfirst : invocationOf? t (i :: detected) = some i := by simp [invocationOf?, hi]
      rw [hfirst, Option.bind_some]
      cases hkeep : c.keep? i with
      | some j =>
        have hj : j.tool = t := (tool_of_keep? hkeep).trans hi
        rw [List.filterMap_cons_some hkeep]
        simp [invocationOf?, hj]
      | none =>
        -- the tool is turned off, so that another invocation of it would be left out as well
        have hoff : ∀ i', i'.tool = t → c.keep? i' = none := by
          intro i' hi'
          have hsame := (c.isSome_keep? i').trans ((c.isSome_keep? i).trans (by rw [hi, hi'])).symm
          rw [hkeep] at hsame
          simpa using hsame
        rw [List.filterMap_cons_none hkeep, ih]
        cases hrest : invocationOf? t detected with
        | none => rfl
        | some i' => exact hoff i' (tool_of_invocationOf? hrest)
    · have hnext : invocationOf? t (i :: detected) = invocationOf? t detected := by simp [invocationOf?, hi]
      rw [hnext]
      cases hkeep : c.keep? i with
      | none => rw [List.filterMap_cons_none hkeep, ih]
      | some j =>
        have hj : j.tool ≠ t := fun hj => hi ((tool_of_keep? hkeep).symm.trans hj)
        rw [List.filterMap_cons_some hkeep, ← ih]
        simp [invocationOf?, hj]

/-- **What becomes of a tool depends on nothing but how it was detected and what is said of it.** -/
theorem invocationOf?_adjust (c : Config) (t : Tool) (detected : List Invocation) :
    invocationOf? t (c.adjust detected) = t.outcome (invocationOf? t detected) (c.override? t.name) := by
  rw [adjust, invocationOf?_append, invocationOf?_filterMap_keep?, invocationOf?_filterMap fun _ _ => tool_of_force?]
  cases hdetected : invocationOf? t detected with
  | none =>
    have hnot : t ∉ toolsOf detected := invocationOf?_eq_none_iff.1 hdetected
    have hmem : t ∈ Tool.all.filter fun t => t ∉ detected.map (·.tool) :=
      List.mem_filter.2 ⟨t.mem_all, by simpa [toolsOf] using hnot⟩
    rw [if_pos hmem, force?_eq_outcome]
    rfl
  | some i =>
    have hi : i.tool = t := tool_of_invocationOf? hdetected
    have hin : t ∈ toolsOf detected := by
      by_contra hnot
      rw [invocationOf?_eq_none_iff.2 hnot] at hdetected
      cases hdetected
    have hmem : t ∉ Tool.all.filter fun t => t ∉ detected.map (·.tool) := by
      intro h
      have hout := (List.mem_filter.1 h).2
      exact of_decide_eq_true hout hin
    rw [if_neg hmem, Option.bind_some, keep?_eq_outcome, hi]
    cases t.outcome (some i) (c.override? t.name) <;> rfl

/-! ## What is said of no tool, and what is said twice -/

/-- Nothing counts but what is said under the names of tools. -/
theorem adjust_congr (h : ∀ t : Tool, c.override? t.name = c'.override? t.name) (detected : List Invocation) :
    c.adjust detected = c'.adjust detected := by
  have hkeep : c.keep? = c'.keep? := by
    funext i
    rw [keep?, keep?, h]
  have hforce : c.force? = c'.force? := by
    funext t
    rw [force?, force?, h]
  rw [adjust, adjust, hkeep, hforce]

theorem adjust_eq_of_unknown {name : String} (hname : Tool.ofName? name = none) {o : Override}
    {before after : List (String × Override)} (hc : c.linters = before ++ (name, o) :: after)
    (detected : List Invocation) : c.adjust detected = ({ c with linters := before ++ after } : Config).adjust detected := by
  refine adjust_congr (fun t => ?_) detected
  have hne : name ≠ t.name := by
    rintro rfl
    rw [Tool.ofName?_name] at hname
    cases hname
  rw [override?, override?, hc, lastOf?_append, lastOf?_cons_of_ne hne, lastOf?_append]

theorem keep?_adjust {i : Invocation} {o : Override} (ho : c.override? i.tool.name = some o)
    (hon : o.enabled ≠ some false) : c.keep? (i.adjust o) = some (i.adjust o) := by
  rw [keep?_eq_outcome, Invocation.tool_adjust, ho, Tool.outcome, if_neg hon, Invocation.adjust_adjust]

theorem keep?_of_keep? {i j : Invocation} (h : c.keep? i = some j) : c.keep? j = some j := by
  cases ho : c.override? i.tool.name with
  | none =>
    have hij : i = j := by simpa [keep?, ho] using h
    exact hij ▸ h
  | some o =>
    rw [keep?_eq_outcome, ho] at h
    obtain ⟨hon, h⟩ := Option.ite_none_left_eq_some.1 h
    exact Option.some.inj h ▸ keep?_adjust ho hon

theorem keep?_of_force? {j : Invocation} (h : c.force? t = some j) : c.keep? j = some j := by
  rw [force?_eq_outcome] at h
  cases ho : c.override? t.name with
  | none =>
    rw [ho] at h
    cases h
  | some o =>
    rw [ho] at h
    obtain ⟨hon, h⟩ := Option.ite_none_right_eq_some.1 h
    exact Option.some.inj h ▸ keep?_adjust ho (by simp [hon])

/-- **Adjusting twice is adjusting once.** -/
theorem adjust_adjust (c : Config) (detected : List Invocation) :
    c.adjust (c.adjust detected) = c.adjust detected := by
  have hkept : ∀ j ∈ c.adjust detected, c.keep? j = some j := by
    intro j hj
    rcases List.mem_append.1 hj with hj | hj
    · obtain ⟨i, -, hi⟩ := List.mem_filterMap.1 hj
      exact keep?_of_keep? hi
    · obtain ⟨t, -, ht⟩ := List.mem_filterMap.1 hj
      exact keep?_of_force? ht
  -- a tool that is turned on is there by now, and is not brought in again
  have hforced : ∀ t ∈ Tool.all.filter fun t => t ∉ (c.adjust detected).map (·.tool), c.force? t = none := by
    intro t ht
    have hout : t ∉ toolsOf (c.adjust detected) := of_decide_eq_true (List.mem_filter.1 ht).2
    have hoff : c.enabled? t ≠ some true := fun hon => hout (mem_toolsOf_adjust.2 ⟨by simp [hon], .inr hon⟩)
    simpa [hoff] using c.isSome_force? t
  rw [adjust, List.filterMap_congr hkept, List.filterMap_some, List.filterMap_congr hforced, List.filterMap_none,
    List.append_nil]

/-! ## All together -/

structure AdjustsEach (c : Config) (detected : List Invocation) : Prop where
  /-- Which tools run, and that each runs once. -/
  count : ∀ t, (toolsOf (c.adjust detected)).count t =
    if c.enabled? t ≠ some false ∧ (t ∈ toolsOf detected ∨ c.enabled? t = some true) then 1 else 0
  order : toolsOf (c.adjust detected) = ((toolsOf detected).filter fun t => c.enabled? t ≠ some false) ++
    [Tool.ruff, Tool.pyright, Tool.eslint, Tool.typescript].filter fun t =>
      t ∉ toolsOf detected ∧ c.enabled? t = some true
  /-- Each tool depends on itself alone, and is adjusted field by field. -/
  each : ∀ t, invocationOf? t (c.adjust detected) = t.outcome (invocationOf? t detected) (c.override? t.name)
  fields : ∀ (i : Invocation) (o : Override), (i.adjust o).Follows o i
  unknown : ∀ name o before after, Tool.ofName? name = none → c.linters = before ++ (name, o) :: after →
    c.adjust detected = ({ c with linters := before ++ after } : Config).adjust detected
  again : c.adjust (c.adjust detected) = c.adjust detected

/-- **The linters that were detected are adjusted one by one**, if no two are of one tool. -/
theorem adjusts_each (c : Config) (h : (toolsOf detected).Nodup) : c.AdjustsEach detected where
  count := fun t => by
    have hnodup := c.nodup_tools_adjust h
    by_cases hruns : c.enabled? t ≠ some false ∧ (t ∈ toolsOf detected ∨ c.enabled? t = some true)
    · rw [if_pos hruns]
      rw [hnodup.count, if_pos (mem_toolsOf_adjust.2 hruns)]
    · rw [if_neg hruns]
      exact List.count_eq_zero.2 fun hmem => hruns (mem_toolsOf_adjust.1 hmem)
  order := c.toolsOf_adjust detected
  each := fun t => c.invocationOf?_adjust t detected
  fields := Invocation.follows_adjust
  unknown := fun _ _ _ _ hname hc => adjust_eq_of_unknown hname hc detected
  again := c.adjust_adjust detected

/-- One linter that was detected is turned off, one that was not is turned on, and a third name is that of no tool. -/
theorem adjusts_each_typescript :
    let c : Config := { linters :=
      [("typescript", { enabled := some true, config := some "tsconfig.build.json" }), ("mypy", { enabled := some true }),
        ("eslint", { enabled := some false }), ("ruff", { timeoutSecs := some 10 })] }
    let detected : List Invocation := [.standard .ruff (some "/ruff.toml"), .standard .eslint none]
    (toolsOf detected).Nodup ∧ c.AdjustsEach detected ∧ toolsOf (c.adjust detected) = [.ruff, .typescript] ∧
      c.adjust (c.adjust detected) = c.adjust detected := by
  intro c detected
  have hnodup : (toolsOf detected).Nodup := by decide
  have heach := c.adjusts_each hnodup
  exact ⟨hnodup, heach, by decide +kernel, heach.again⟩

end Config

end LintGloss
