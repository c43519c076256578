import LintGloss.Proofs.Json.Members
import LintGloss.Proofs.Summary
import LintGloss.Json.Record
import Mathlib.Data.List.Basic
/-!
# Reading a report back

`Report.ofJson?` reads the JSON value of a report by the names of its members, so that their order does not matter.
The body of an assembled report, with its members sorted, is read back as that report (`ofJson?_sortKeys_assemble`).
-/

namespace LintGloss

/-! ## Readers -/

namespace Json

/-- A natural number that has to be there. -/
def natural? : Option Json → Option Nat
  | some (.int (.ofNat n)) => some n
  | _ => none

/-- The items of an array that has to be there. -/
def items? : Option Json → Option (List Json)
  | some (.arr items) => some items
  | _ => none

/-- A value that has to be there and is null for nothing. -/
def nullable? {α : Type} (read : Json → Option α) : Option Json → Option (Option α)
  | none => none
  | some .null => some none
  | some j => (read j).map some

end Json

open Json (text? natural? items? nullable?)

def Rule.ofJson? (j : Json) : Option Rule := do
  return ⟨← text? (j.member? "illegal"), ← text? (j.member? "legal"), ← text? (j.member? "why")⟩

def Violation.ofJson? (j : Json) : Option Violation := do
  return {
    tool := ← Tool.ofName? (← text? (j.member? "tool"))
    file := ← text? (j.member? "file")
    line := ← natural? (j.member? "line")
    column := ← natural? (j.member? "column")
    code := ← text? (j.member? "code")
    message := ← text? (j.member? "message") }

def Glossed.ofJson? (j : Json) : Option Glossed := do
  return ⟨← Violation.ofJson? j, ← nullable? Rule.ofJson? (j.member? "semantic")⟩

/-- The error is left out where there is none. -/
def LinterSummary.ofJson? (j : Json) : Option LinterSummary := do
  return {
    name := ← text? (j.member? "name")
    status := ← Status.ofName? (← text? (j.member? "status"))
    violationCount := ← natural? (j.member? "violations_count")
    error := ← Json.optional? text? (j.member? "error") }

def Summary.ofJson? (j : Json) : Option Summary := do
  let byTool ← j.member? "by_tool"
  return {
    total := ← natural? (j.member? "total")
    withRule := ← natural? (j.member? "with_semantic")
    withoutRule := ← natural? (j.member? "without_semantic")
    byTool := Tool.alphabetic.filterMap fun t => (natural? (byTool.member? t.name)).map (t, ·)
    files := ← natural? (j.member? "files_affected") }

def Report.ofJson? (j : Json) : Option Report := do
  let linters ← j.member? "linters"
  return {
    violations := ← (← items? (j.member? "violations")).mapM Glossed.ofJson?
    detected := ← (← items? (linters.member? "detected")).mapM fun name => text? (some name)
    results := ← (← items? (linters.member? "results")).mapM LinterSummary.ofJson?
    summary := ← (j.member? "summary").bind Summary.ofJson? }

/-! ## Sorted members are read alike -/

section Sorted

@[simp] theorem text?_map_sortKeys (o : Option Json) : text? (o.map Json.sortKeys) = text? o := by
  rcases o with _ | (_ | _ | _ | _ | _ | _ | _) <;> rfl

@[simp] theorem natural?_map_sortKeys (o : Option Json) : natural? (o.map Json.sortKeys) = natural? o := by
  rcases o with _ | (_ | _ | _ | _ | _ | _ | _) <;> rfl

@[simp] theorem items?_map_sortKeys (o : Option Json) :
    items? (o.map Json.sortKeys) = (items? o).map (·.map Json.sortKeys) := by
  rcases o with _ | (_ | _ | _ | _ | _ | items | _) <;> try rfl
  simp [items?, Json.sortKeys, Json.sortItems_eq_map]

theorem nullable?_map_sortKeys {α : Type} {read : Json → Option α} (h : ∀ j, read j.sortKeys = read j)
    (o : Option Json) : nullable? read (o.map Json.sortKeys) = nullable? read o := by
  rcases o with _ | j
  · rfl
  · have hj := h j
    cases j <;> first | rfl | exact congrArg (Option.map some) hj

theorem optional?_map_sortKeys {α : Type} {read : Option Json → Option α}
    (h : ∀ o, read (o.map Json.sortKeys) = read o) (o : Option Json) :
    Json.optional? read (o.map Json.sortKeys) = Json.optional? read o := by
  rcases o with _ | j
  · rfl
  · have hj := h (some j)
    cases j <;> first | rfl | exact congrArg (Option.map some) hj

theorem Rule.ofJson?_sortKeys (j : Json) : ofJson? j.sortKeys = ofJson? j := by simp [ofJson?]

theorem Violation.ofJson?_sortKeys (j : Json) : ofJson? j.sortKeys = ofJson? j := by simp [ofJson?]

theorem Glossed.ofJson?_sortKeys (j : Json) : ofJson? j.sortKeys = ofJson? j := by
  simp [ofJson?, Violation.ofJson?_sortKeys, nullable?_map_sortKeys Rule.ofJson?_sortKeys]

theorem LinterSummary.ofJson?_sortKeys (j : Json) : ofJson? j.sortKeys = ofJson? j := by
  simp [ofJson?, optional?_map_sortKeys text?_map_sortKeys]

theorem Summary.ofJson?_sortKeys (j : Json) : ofJson? j.sortKeys = ofJson? j := by
  rw [ofJson?, ofJson?, Json.member?_sortKeys]
  cases j.member? "by_tool" <;> simp

theorem Report.ofJson?_sortKeys (j : Json) : ofJson? j.sortKeys = ofJson? j := by
  have htext (i : Json) : text? (some i.sortKeys) = text? (some i) := text?_map_sortKeys (some i)
  simp [ofJson?, Option.bind_map, Function.comp_def, Glossed.ofJson?_sortKeys, LinterSummary.ofJson?_sortKeys,
    Summary.ofJson?_sortKeys, htext]

end Sorted

/-! ## What is written is read -/

@[simp] theorem text?_str (s : String) : text? (some (.str s)) = some s := rfl

@[simp] theorem natural?_nat (n : Nat) : natural? (some (.nat n)) = some n := rfl

@[simp] theorem items?_arr (items : List Json) : items? (some (.arr items)) = some items := rfl

/-- What reads each item that was written reads them all. -/
theorem mapM_map_of_read {α β : Type} {read : β → Option α} {write : α → β} (h : ∀ a, read (write a) = some a) :
    ∀ l : List α, (l.map write).mapM read = some l
  | [] => rfl
  | a :: l => by
    rw [List.map_cons, List.mapM_cons, h, mapM_map_of_read h l]
    rfl

@[simp] theorem Status.ofName?_name (s : Status) : Status.ofName? s.name = some s := by cases s <;> decide

theorem Rule.ofJson?_toJson (r : Rule) : ofJson? r.toJson = some r := by
  simp [ofJson?, toJson, Json.member?, lastOf?]

theorem Violation.ofJson?_members (v : Violation) (semantic : Json) :
    ofJson? (.obj (v.members ++ [("semantic", semantic)])) = some v := by
  simp [ofJson?, members, Json.member?, lastOf?]

theorem Glossed.ofJson?_toJson (g : Glossed) : ofJson? g.toJson = some g := by
  obtain ⟨v, r⟩ := g
  cases r with
  | none =>
    simp [ofJson?, toJson, Violation.ofJson?_members, Json.member?, lastOf?_append, lastOf?, Json.ofOption, nullable?]
  | some r =>
    have hr : nullable? Rule.ofJson? (some r.toJson) = some (some r) := congrArg (Option.map some) r.ofJson?_toJson
    simp [ofJson?, toJson, Violation.ofJson?_members, Json.member?, lastOf?_append, lastOf?, Json.ofOption, hr]

theorem LinterSummary.ofJson?_toJson (s : LinterSummary) : ofJson? s.toJson = some s := by
  obtain ⟨name, status, count, error⟩ := s
  cases error <;> simp [ofJson?, toJson, Json.member?, lastOf?, Json.optional?]

theorem lastOf?_name_eq_none {t : Tool} {es : List (Tool × Nat)} (h : t ∉ es.map (·.1)) :
    lastOf? t.name (es.map fun e => (e.1.name, Json.nat e.2)) = none := by
  rw [lastOf?_eq_none_iff, List.forall_mem_map]
  intro e he hname
  exact h (Tool.name_injective hname ▸ List.mem_map_of_mem he)

/-- What is counted for tools is read in the order of all tools. -/
theorem filterMap_lastOf?_name : ∀ {l : List Tool} {es : List (Tool × Nat)}, l.Nodup → (es.map (·.1)).Sublist l →
    l.filterMap (fun t => (natural? (lastOf? t.name (es.map fun e => (e.1.name, Json.nat e.2)))).map (t, ·)) = es
  | [], es, _, h => (List.map_eq_nil_iff.1 (List.sublist_nil.1 h)).symm
  | a :: l, es, hn, h => by
    obtain ⟨hal, hl⟩ := List.nodup_cons.1 hn
    generalize hks : es.map (·.1) = ks at h
    cases h with
    | cons _ h =>
      have hnone := lastOf?_name_eq_none fun ha => hal (h.subset (hks ▸ ha))
      rw [List.filterMap_cons_none (by rw [hnone]; rfl), filterMap_lastOf?_name hl (hks ▸ h)]
    | cons_cons _ h =>
      -- the first tool has the first entry, which the others do not look up
      obtain ⟨⟨t, n⟩, es, rfl, rfl, rfl⟩ := List.map_eq_cons_iff.1 hks
      have hnone := lastOf?_name_eq_none fun ht => hal (h.subset ht)
      have hrest : l.filterMap (fun t' => (natural? (lastOf? t'.name
          (((t, n) :: es).map fun e => (e.1.name, Json.nat e.2)))).map (t', ·)) = es := by
        conv => rhs; rw [← filterMap_lastOf?_name hl h]
        refine List.filterMap_congr fun t' ht' => ?_
        have hname : t.name ≠ t'.name := fun hname => hal (Tool.name_injective hname ▸ ht')
        rw [List.map_cons, lastOf?_cons_of_ne hname]
      rw [List.filterMap_cons_some (by rw [List.map_cons, lastOf?, hnone, if_pos rfl]; rfl), hrest]

/-- **A summary is read back** if its tools stand in the order of their names. -/
theorem Summary.ofJson?_toJson {s : Summary} (h : (s.byTool.map (·.1)).Sublist Tool.alphabetic) :
    ofJson? s.toJson = some s := by
  have hread := filterMap_lastOf?_name (by decide) h
  simp [ofJson?, toJson, Json.member?, lastOf?, hread]

theorem Summary.tools_ofGlossed_sublist (gs : List Glossed) :
    ((ofGlossed gs).byTool.map (·.1)).Sublist Tool.alphabetic := by
  rw [byTool_ofGlossed, List.map_map]
  exact (List.map_id _).symm ▸ List.filter_sublist

/-- **A report is read back** from its JSON value. -/
theorem Report.ofJson?_toJson {r : Report} (h : (r.summary.byTool.map (·.1)).Sublist Tool.alphabetic) :
    ofJson? r.toJson = some r := by
  have hviolations := mapM_map_of_read Glossed.ofJson?_toJson r.violations
  have hdetected : (r.detected.map Json.str).mapM (fun name => text? (some name)) = some r.detected :=
    @mapM_map_of_read String Json (fun name => text? (some name)) Json.str text?_str r.detected
  have hresults := mapM_map_of_read LinterSummary.ofJson?_toJson r.results
  simp [ofJson?, toJson, Json.member?, lastOf?, Json.strings, hviolations, hdetected, hresults,
    Summary.ofJson?_toJson h, -List.map_map, -List.mapM_map]

/-- **The body of a report says what the report says.** -/
theorem Report.ofJson?_sortKeys_assemble (gs : List Glossed) (results : List RunResult) (detected : List String) :
    ofJson? (assemble gs results detected).toJson.sortKeys = some (assemble gs results detected) := by
  rw [ofJson?_sortKeys]
  exact ofJson?_toJson (Summary.tools_ofGlossed_sublist gs)

end LintGloss
