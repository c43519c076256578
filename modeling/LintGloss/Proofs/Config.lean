import LintGloss.Config.Decoder
import LintGloss.Proofs.Steps
import LintGloss.Proofs.Yaml.Keys
/-!
# What an accepted document holds

The rules of an accepted configuration are those of the entries under `rules`, section by section and code by code, in
the order of the document (`exists_rules_of_parse`).  Their keys are made of pairs of keys in the document
(`map_ruleKeyText`), of which no two are the same (`pairwise_ruleKeys`).
-/

namespace LintGloss

/-! ## Rules -/

theorem toolRules_eq_ok_iff {entry : Yaml × Yaml} {es : List RuleEntry} :
    toolRules entry = .ok es ↔
      ∃ tool codes, keyText entry.1 = .ok tool ∧ entry.2 = .map codes ∧ codes.mapM (codeRule tool) = .ok es := by
  rw [toolRules, bind_eq_ok_iff]
  constructor
  · rintro ⟨tool, htool, h⟩
    split at h
    · rename_i codes hcodes
      exact ⟨tool, codes, htool, hcodes, h⟩
    · cases h
  · rintro ⟨tool, codes, htool, hcodes, h⟩
    refine ⟨tool, htool, ?_⟩
    rw [hcodes]
    exact h

theorem codeRule_eq_ok_iff {tool : String} {entry : Yaml × Yaml} {e : RuleEntry} :
    codeRule tool entry = .ok e ↔
      ∃ code rule, keyText entry.1 = .ok code ∧ ruleOf tool code entry.2 = .ok rule ∧ e = ⟨tool, code, rule⟩ := by
  rw [codeRule, bind_eq_ok_iff]
  constructor
  · rintro ⟨code, hcode, h⟩
    obtain ⟨rule, hrule, h⟩ := bind_eq_ok_iff.1 h
    exact ⟨code, rule, hcode, hrule, (Except.ok.inj h).symm⟩
  · rintro ⟨code, rule, hcode, hrule, rfl⟩
    exact ⟨code, hcode, bind_eq_ok_iff.2 ⟨rule, hrule, rfl⟩⟩

namespace Config

/-- The entries directly under a name at the root of a document. -/
def entriesUnder (name : String) : Yaml → List (Yaml × Yaml)
  | .map root =>
    match section? root name with
    | .ok entries => entries
    | .error _ => []
  | _ => []

/-- The entries directly under `rules` in the document that a text writes. -/
def ruleSections (s : String) : List (Yaml × Yaml) :=
  if Text.isAllBlank s then []
  else match Yaml.parse? s.toList with
    | some v => entriesUnder "rules" v
    | none => []

theorem exists_rules_of_ofYaml {v : Yaml} {c : Config} (h : ofYaml v = .ok c) :
    ∃ rules, (entriesUnder "rules" v).mapM toolRules = .ok rules ∧ c.rules = rules.flatten := by
  cases v with
  | map root =>
    obtain ⟨ls, -, h⟩ := bind_eq_ok_iff.1 h
    obtain ⟨linters, -, h⟩ := bind_eq_ok_iff.1 h
    obtain ⟨entries, hentries, h⟩ := bind_eq_ok_iff.1 h
    obtain ⟨rules, hrules, h⟩ := bind_eq_ok_iff.1 h
    refine ⟨rules, ?_, by rw [← Except.ok.inj h]⟩
    rw [entriesUnder, hentries]
    exact hrules
  | null => exact ⟨[], rfl, by rw [← Except.ok.inj h]; rfl⟩
  | _ => cases h

/-- **The rules of an accepted configuration are those of the document**, in its order. -/
theorem exists_rules_of_parse {s : String} {c : Config} (h : parse s = .ok c) :
    ∃ rules, (ruleSections s).mapM toolRules = .ok rules ∧ c.rules = rules.flatten := by
  unfold parse at h
  unfold ruleSections
  split at h
  · rename_i hblank
    rw [if_pos hblank, ← Except.ok.inj h]
    exact ⟨[], rfl, rfl⟩
  · rename_i hblank
    rw [if_neg hblank]
    split at h
    · cases h
    · rename_i v hv
      rw [hv]
      cases hc : ofYaml v with
      | error fault =>
        rw [hc] at h
        cases h
      | ok c' =>
        rw [hc] at h
        rw [← Except.ok.inj h]
        exact exists_rules_of_ofYaml hc

/-- The name of a rule is the text of a key under `rules`. -/
theorem exists_section_of_mem_rules {s : String} {c : Config} (h : parse s = .ok c) {e : RuleEntry}
    (he : e ∈ c.rules) : ∃ entry ∈ ruleSections s, keyText entry.1 = .ok e.tool := by
  obtain ⟨rules, hrules, hc⟩ := exists_rules_of_parse h
  rw [hc] at he
  obtain ⟨es, hes, he⟩ := List.mem_flatten.1 he
  obtain ⟨entry, hentry, htool⟩ := exists_mem_of_mapM hrules hes
  obtain ⟨tool, codes, hkey, -, hcodes⟩ := toolRules_eq_ok_iff.1 htool
  obtain ⟨code, -, hcode⟩ := exists_mem_of_mapM hcodes he
  obtain ⟨code, rule, -, -, rfl⟩ := codeRule_eq_ok_iff.1 hcode
  exact ⟨entry, hentry, hkey⟩

/-! ## Keys of rules -/

/-- The keys directly under the name of an entry, each behind the key of the entry. -/
def keysIn (entry : Yaml × Yaml) : List (Yaml × Yaml) :=
  match entry.2 with
  | .map codes => codes.map fun code => (entry.1, code.1)
  | _ => []

/-- The keys in a document that its rules stand under: that of the section and that of the code. -/
def ruleKeys (s : String) : List (Yaml × Yaml) := (ruleSections s).flatMap keysIn

/-- The text that two keys of a document make one key of. -/
def ruleKeyText (k : Yaml × Yaml) : Except ConfigFault String := do
  let tool ← keyText k.1
  let code ← keyText k.2
  return tool ++ "/" ++ code

theorem ruleKeyText_eq_ok_iff {k : Yaml × Yaml} {key : String} :
    ruleKeyText k = .ok key ↔
      ∃ tool code, keyText k.1 = .ok tool ∧ keyText k.2 = .ok code ∧ tool ++ "/" ++ code = key := by
  rw [ruleKeyText, bind_eq_ok_iff]
  constructor
  · rintro ⟨tool, htool, h⟩
    obtain ⟨code, hcode, h⟩ := bind_eq_ok_iff.1 h
    exact ⟨tool, code, htool, hcode, Except.ok.inj h⟩
  · rintro ⟨tool, code, htool, hcode, rfl⟩
    exact ⟨tool, htool, bind_eq_ok_iff.2 ⟨code, hcode, rfl⟩⟩

theorem map_ruleKeyText_keysIn {entry : Yaml × Yaml} {es : List RuleEntry} (h : toolRules entry = .ok es) :
    (keysIn entry).map ruleKeyText = es.map fun e => .ok e.key := by
  obtain ⟨tool, codes, htool, hentry, hcodes⟩ := toolRules_eq_ok_iff.1 h
  rw [keysIn, hentry, List.map_map]
  refine map_eq_map_of_mapM (fun code e he => ?_) hcodes
  obtain ⟨key, rule, hkey, -, rfl⟩ := codeRule_eq_ok_iff.1 he
  exact ruleKeyText_eq_ok_iff.2 ⟨tool, key, htool, hkey, rfl⟩

/-- **The keys of the rules are made of the document's keys**, one for one. -/
theorem map_ruleKeyText {s : String} {c : Config} (h : parse s = .ok c) :
    (ruleKeys s).map ruleKeyText = c.rules.map fun e => .ok e.key := by
  obtain ⟨rules, hrules, hc⟩ := exists_rules_of_parse h
  rw [ruleKeys, hc, List.map_flatMap, List.flatMap_def, List.map_flatten]
  exact congrArg List.flatten (map_eq_map_of_mapM (fun entry es => map_ruleKeyText_keysIn) hrules)

theorem exists_mem_of_find? {key : String} {v : Yaml} : ∀ {entries : List (Yaml × Yaml)},
    Yaml.find? key entries = some v → ∃ e ∈ entries, e.2 = v
  | [], h => by cases h
  | (k, w) :: entries, h => by
    have hrest : Yaml.find? key entries = some v → ∃ e ∈ (k, w) :: entries, e.2 = v := fun h =>
      let ⟨e, he, hv⟩ := exists_mem_of_find? h
      ⟨e, List.mem_cons_of_mem _ he, hv⟩
    cases k with
    | str s =>
      rw [Yaml.find?] at h
      split at h
      · exact ⟨_, List.mem_cons_self, Option.some.inj h⟩
      · exact hrest h
    | _ => exact hrest h

theorem wellKeyed_entriesUnder {v : Yaml} (hv : v.WellKeyed) (name : String) :
    (Yaml.map (entriesUnder name v)).WellKeyed := by
  cases hv with
  | map hdistinct hkeys hvalues =>
    rw [entriesUnder, section?]
    split
    · rename_i entries hentries
      split at hentries
      · exact Except.ok.inj hentries ▸ .map_nil
      · exact Except.ok.inj hentries ▸ .map_nil
      · rename_i found hfound
        obtain ⟨e, he, hvalue⟩ := exists_mem_of_find? hfound
        exact Except.ok.inj hentries ▸ hvalue ▸ hvalues e he
      · cases hentries
    · exact .map_nil
  | _ => exact .map_nil

theorem wellKeyed_ruleSections (s : String) : (Yaml.map (ruleSections s)).WellKeyed := by
  unfold ruleSections
  split
  · exact .map_nil
  · split
    · rename_i v hv
      exact wellKeyed_entriesUnder (Yaml.wellKeyed_of_parse? hv) "rules"
    · exact .map_nil

theorem fst_of_mem_keysIn {entry k : Yaml × Yaml} (hk : k ∈ keysIn entry) : k.1 = entry.1 := by
  unfold keysIn at hk
  split at hk
  · obtain ⟨code, -, rfl⟩ := List.mem_map.1 hk
    rfl
  · cases hk

theorem pairwise_keysIn {entry : Yaml × Yaml} (hentry : entry.2.WellKeyed) :
    (keysIn entry).Pairwise fun p q => p.2.same q.2 = false := by
  unfold keysIn
  split
  · rename_i codes hcodes
    rw [hcodes] at hentry
    cases hentry with
    | map hdistinct hkeys hvalues => exact List.pairwise_map.2 hdistinct
  · exact .nil

/-- **No two pairs of keys are the same**, as values, in the section and in the code. -/
theorem pairwise_ruleKeys (s : String) :
    (ruleKeys s).Pairwise fun p q => ¬ (p.1.same q.1 = true ∧ p.2.same q.2 = true) := by
  cases wellKeyed_ruleSections s with
  | map hdistinct hkeys hvalues =>
    -- within a section the codes differ, and between two sections the names do
    refine List.pairwise_flatMap.2 ⟨fun entry hentry => ?_, hdistinct.imp fun {a b} hab p hp q hq hpq => ?_⟩
    · exact (pairwise_keysIn (hvalues entry hentry)).imp fun hpq h => by simp [hpq] at h
    · rw [fst_of_mem_keysIn hp, fst_of_mem_keysIn hq, hab] at hpq
      exact absurd hpq.1 Bool.false_ne_true

end Config

end LintGloss
