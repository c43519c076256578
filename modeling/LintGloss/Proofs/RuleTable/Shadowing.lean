import LintGloss.Proofs.RuleTable.Join
import Mathlib.Data.List.Nodup
/-!
# Rules that no key reaches

Keys of a document are told apart as values, and rules by the texts of their keys.  Two values can have one text, and so
can two pairs of a name and a code; the rule that stands first is then in the configuration and not in the table
(`exists_shadowed_rule`).  `reaches_every_rule_iff` says when this does not happen.
-/

namespace LintGloss

open Config

/-- Whether each rule of a configuration is what its key gives. -/
def RuleTable.ReachesAll (c : Config) : Prop := ∀ e ∈ c.rules, (ofConfig c).get? e.key = some e.rule

theorem RuleTable.reachesAll_iff {c : Config} :
    ReachesAll c ↔ ∀ e ∈ c.rules, ∀ e' ∈ c.rules, e.key = e'.key → e.rule = e'.rule := by
  have h : (∀ x ∈ (ofConfig c).entries, lastOf? x.1 (ofConfig c).entries = some x.2) ↔
      ∀ x ∈ (ofConfig c).entries, ∀ y ∈ (ofConfig c).entries, x.1 = y.1 → x.2 = y.2 := forall_lastOf?_eq_some_iff
  simp only [ofConfig, List.forall_mem_map] at h
  exact h

/-- Distinct keys are all reached. -/
theorem RuleTable.reachesAll_of_nodup {c : Config} (h : (c.rules.map RuleEntry.key).Nodup) : ReachesAll c := by
  refine reachesAll_iff.2 fun e he e' he' hkey => ?_
  rw [List.inj_on_of_nodup_map h he he' hkey]

/-! ## Texts of keys -/

theorem Binary64.same_self : ∀ x : Binary64, x.same x = true
  | .nan => rfl
  | .infinite _ => by simp [same]
  | .finite _ _ _ => by simp [same]

/-- A key that has a text is a scalar, and the same as itself. -/
theorem same_self_of_keyText {k : Yaml} {key : String} (h : keyText k = .ok key) : k.same k = true := by
  cases k with
  | str | int | bool => simp [Yaml.same]
  | real x => rw [Yaml.same, x.same_self]
  | null | seq | map | tagged => cases h

theorem nodup_ruleKeys {s : String} {c : Config} (h : Config.parse s = .ok c) : (ruleKeys s).Nodup := by
  refine (pairwise_ruleKeys s).imp_of_mem fun {p q} hp _ hpq heq => ?_
  have hmem : ruleKeyText p ∈ c.rules.map fun e => .ok e.key := by
    rw [← map_ruleKeyText h]
    exact List.mem_map_of_mem hp
  obtain ⟨e, -, he⟩ := List.mem_map.1 hmem
  obtain ⟨tool, code, htool, hcode, -⟩ := ruleKeyText_eq_ok_iff.1 he.symm
  exact hpq (heq ▸ ⟨same_self_of_keyText htool, same_self_of_keyText hcode⟩)

/-- The keys of the rules are distinct exactly if no two pairs of keys in the document have one text. -/
theorem nodup_keys_iff {s : String} {c : Config} (h : Config.parse s = .ok c) :
    (c.rules.map RuleEntry.key).Nodup ↔
      ∀ p ∈ ruleKeys s, ∀ q ∈ ruleKeys s, ruleKeyText p = ruleKeyText q → p = q := by
  have hok : Function.Injective (Except.ok : String → Except ConfigFault String) := fun _ _ => Except.ok.inj
  have hmap : (ruleKeys s).map ruleKeyText = (c.rules.map RuleEntry.key).map .ok := by
    rw [map_ruleKeyText h, List.map_map]
    rfl
  rw [← List.nodup_map_iff hok, ← hmap, List.nodup_map_iff_inj_on (nodup_ruleKeys h)]

/-- Whether two keys are strings, and the first of them holds no slash. -/
def isPlainKey : Yaml × Yaml → Bool
  | (.str tool, .str _) => '/' ∉ tool.toList
  | _ => false

theorem exists_of_isPlainKey {k : Yaml × Yaml} (h : isPlainKey k = true) :
    ∃ tool code, k = (.str tool, .str code) ∧ '/' ∉ tool.toList := by
  unfold isPlainKey at h
  split at h
  · exact ⟨_, _, rfl, of_decide_eq_true h⟩
  · cases h

/-- Strings, with no slash in the names, make different keys. -/
theorem eq_of_ruleKeyText_eq {a b x y : String} (ha : '/' ∉ a.toList) (hb : '/' ∉ b.toList)
    (h : ruleKeyText (.str a, .str x) = ruleKeyText (.str b, .str y)) : a = b ∧ x = y :=
  slash_key_inj ha hb (Except.ok.inj h)

/-- **When no rule is shadowed**: exactly if rules with one key are one rule.  The keys are distinct exactly if no two
pairs of keys in the document have one text, and they are if all of them are strings and no name holds a slash. -/
theorem reaches_every_rule_iff {s : String} {c : Config} (h : Config.parse s = .ok c) :
    (RuleTable.ReachesAll c ↔ ∀ e ∈ c.rules, ∀ e' ∈ c.rules, e.key = e'.key → e.rule = e'.rule) ∧
      ((c.rules.map RuleEntry.key).Nodup ↔
        ∀ p ∈ ruleKeys s, ∀ q ∈ ruleKeys s, ruleKeyText p = ruleKeyText q → p = q) ∧
      ((∀ k ∈ ruleKeys s, isPlainKey k = true) →
        (c.rules.map RuleEntry.key).Nodup ∧ RuleTable.ReachesAll c) := by
  refine ⟨RuleTable.reachesAll_iff, nodup_keys_iff h, fun hplain => ?_⟩
  have hnodup : (c.rules.map RuleEntry.key).Nodup := by
    refine (nodup_keys_iff h).2 fun p hp q hq hpq => ?_
    obtain ⟨a, x, rfl, ha⟩ := exists_of_isPlainKey (hplain p hp)
    obtain ⟨b, y, rfl, hb⟩ := exists_of_isPlainKey (hplain q hq)
    obtain ⟨rfl, rfl⟩ := eq_of_ruleKeyText_eq ha hb hpq
    rfl
  exact ⟨hnodup, RuleTable.reachesAll_of_nodup hnodup⟩

theorem reaches_every_rule_ruff :
    let s := "rules:\n ruff:\n  F401: \x7billegal: a, legal: b, why: c\x7d\n"
    let c : Config := ⟨[], [⟨"ruff", "F401", ⟨"a", "b", "c"⟩⟩]⟩
    Config.parse s = .ok c ∧ (∀ k ∈ ruleKeys s, isPlainKey k = true) ∧ RuleTable.ReachesAll c := by
  intro s c
  have h : Config.parse s = .ok c := eq_ok_of_toOption (by decide +kernel)
  have hplain : ∀ k ∈ ruleKeys s, isPlainKey k = true := List.all_eq_true.1 (by decide +kernel)
  exact ⟨h, hplain, ((reaches_every_rule_iff h).2.2 hplain).2⟩

/-- The number one and the text `1` are two keys in the document and one in the table: the first rule is accepted, and
no key gives it. -/
theorem exists_shadowed_rule :
    let s := "rules:\n ruff:\n  1: \x7billegal: a, legal: b, why: c\x7d\n  '1': \x7billegal: x, legal: y, why: z\x7d\n"
    let c : Config := ⟨[], [⟨"ruff", "1", ⟨"a", "b", "c"⟩⟩, ⟨"ruff", "1", ⟨"x", "y", "z"⟩⟩]⟩
    Config.parse s = .ok c ∧ ¬ RuleTable.ReachesAll c := by
  intro s c
  refine ⟨eq_ok_of_toOption (by decide +kernel), fun h => ?_⟩
  have hfirst : (RuleTable.ofConfig c).get? "ruff/1" = some ⟨"a", "b", "c"⟩ := h _ List.mem_cons_self
  revert hfirst
  decide

end LintGloss
