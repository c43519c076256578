import LintGloss.Proofs.Config
import LintGloss.Proofs.Keyed
import LintGloss.RuleTable
/-!
# Explaining violations as a join

The key of a rule and the key of a violation are texts, so that a name and a code have to be found again in what they
are put together to.  They are, if no name holds a slash (`key_eq_ruleKey_iff`); a code may hold any.  Explaining
violations is then a join with the rules of the document (`gloss_joins`).
-/

namespace LintGloss

/-- A text without a slash is found again in front of the first one. -/
theorem append_slash_inj : ∀ {a b x y : List Char}, '/' ∉ a → '/' ∉ b → a ++ '/' :: x = b ++ '/' :: y → a = b ∧ x = y
  | [], [], _, _, _, _, h => ⟨rfl, (List.cons.inj h).2⟩
  | [], c :: b, _, _, _, hb, h => absurd List.mem_cons_self ((List.cons.inj h).1 ▸ hb)
  | c :: a, [], _, _, ha, _, h => absurd List.mem_cons_self ((List.cons.inj h).1 ▸ ha)
  | c :: a, d :: b, _, _, ha, hb, h => by
    obtain ⟨rfl, htail⟩ := List.cons.inj h
    obtain ⟨rfl, hxy⟩ := append_slash_inj (fun hc => ha (List.mem_cons_of_mem c hc))
      (fun hc => hb (List.mem_cons_of_mem c hc)) htail
    exact ⟨rfl, hxy⟩

/-- Two names without a slash and their codes are told apart by the texts of their keys. -/
theorem slash_key_inj {a b x y : String} (ha : '/' ∉ a.toList) (hb : '/' ∉ b.toList)
    (h : a ++ "/" ++ x = b ++ "/" ++ y) : a = b ∧ x = y := by
  have hlist : a.toList ++ '/' :: x.toList = b.toList ++ '/' :: y.toList := by
    simpa using congrArg String.toList h
  obtain ⟨hab, hxy⟩ := append_slash_inj ha hb hlist
  exact ⟨String.toList_inj.1 hab, String.toList_inj.1 hxy⟩

theorem Tool.slash_notMem_name (t : Tool) : '/' ∉ t.name.toList := by cases t <;> decide

namespace RuleEntry

def Explains (e : RuleEntry) (v : Violation) : Prop := e.tool = v.tool.name ∧ e.code = v.code

theorem key_eq_ruleKey_iff {e : RuleEntry} (he : '/' ∉ e.tool.toList) (v : Violation) :
    e.key = v.ruleKey ↔ e.Explains v := by
  constructor
  · intro h
    exact slash_key_inj he v.tool.slash_notMem_name h
  · rintro ⟨htool, hcode⟩
    rw [key, Violation.ruleKey, htool, hcode]

end RuleEntry

/-- The last rule of a list that explains a violation. -/
def IsLastRule (es : List RuleEntry) (v : Violation) (r : Rule) : Prop :=
  ∃ before e after, es = before ++ e :: after ∧ e.Explains v ∧ e.rule = r ∧ ∀ e' ∈ after, ¬ e'.Explains v

namespace RuleTable

variable {c : Config} (hc : ∀ e ∈ c.rules, '/' ∉ e.tool.toList)

include hc

theorem get?_ruleKey_eq_some_iff (v : Violation) (r : Rule) :
    (ofConfig c).get? v.ruleKey = some r ↔ IsLastRule c.rules v r := by
  rw [get?, ofConfig, lastOf?_eq_some_iff]
  constructor
  · rintro ⟨before, after, hsplit, hafter⟩
    obtain ⟨es, es', hes, rfl, h⟩ := List.map_eq_append_iff.1 hsplit
    obtain ⟨e, es'', rfl, he, rfl⟩ := List.map_eq_cons_iff.1 h
    obtain ⟨hkey, hrule⟩ := Prod.mk.inj he
    have hmem : e ∈ c.rules := by simp [hes]
    refine ⟨es, e, es'', hes, (RuleEntry.key_eq_ruleKey_iff (hc e hmem) v).1 hkey, hrule, ?_⟩
    intro e' he' hv
    have hmem' : e' ∈ c.rules := by simp [hes, he']
    exact hafter _ (List.mem_map_of_mem he') ((RuleEntry.key_eq_ruleKey_iff (hc e' hmem') v).2 hv)
  · rintro ⟨before, e, after, hes, hv, rfl, hafter⟩
    have hmem : e ∈ c.rules := by simp [hes]
    refine ⟨before.map fun e => (e.key, e.rule), after.map fun e => (e.key, e.rule), ?_, ?_⟩
    · rw [hes, List.map_append, List.map_cons, (RuleEntry.key_eq_ruleKey_iff (hc e hmem) v).2 hv]
    · intro x hx hkey
      obtain ⟨e', he', rfl⟩ := List.mem_map.1 hx
      have hmem' : e' ∈ c.rules := by simp [hes, he']
      exact hafter e' he' ((RuleEntry.key_eq_ruleKey_iff (hc e' hmem') v).1 hkey)

theorem isSome_get?_ruleKey_iff (v : Violation) :
    ((ofConfig c).get? v.ruleKey).isSome = true ↔ ∃ e ∈ c.rules, e.Explains v := by
  rw [Option.isSome_iff_exists]
  constructor
  · rintro ⟨r, hr⟩
    obtain ⟨before, e, after, hes, hv, -, -⟩ := (get?_ruleKey_eq_some_iff hc v r).1 hr
    exact ⟨e, by simp [hes], hv⟩
  · rintro ⟨e, he, hv⟩
    refine Option.ne_none_iff_exists'.1 fun hnone => ?_
    rw [get?, ofConfig, lastOf?_eq_none_iff] at hnone
    exact hnone _ (List.mem_map_of_mem he) ((RuleEntry.key_eq_ruleKey_iff (hc e he) v).2 hv)

/-- Rules under names that are no tool's explain nothing. -/
theorem get?_ruleKey_filter (v : Violation) :
    (ofConfig { c with rules := c.rules.filter fun e => (Tool.ofName? e.tool).isSome }).get? v.ruleKey =
      (ofConfig c).get? v.ruleKey := by
  rw [get?, get?, ofConfig, ofConfig]
  refine lastOf?_map_filter _ _ fun e he hp hkey => ?_
  have htool : e.tool = v.tool.name := ((RuleEntry.key_eq_ruleKey_iff (hc e he) v).1 hkey).1
  rw [htool, Tool.ofName?_name] at hp
  cases hp

end RuleTable

/-- **Explaining violations is an exact join with the rules of the document**, if no key under `rules` holds a slash. -/
theorem gloss_joins {s : String} {c : Config} (h : Config.parse s = .ok c)
    (hslash : ∀ entry ∈ Config.ruleSections s, ∀ name, keyText entry.1 = .ok name → '/' ∉ name.toList)
    (vs : List Violation) :
    let gs := gloss (.ofConfig c) vs
    gs.map (·.violation) = vs ∧
      (∀ g ∈ gs, (g.semantic.isSome = true ↔ ∃ e ∈ c.rules, e.Explains g.violation) ∧
        ∀ r, g.semantic = some r ↔ IsLastRule c.rules g.violation r) ∧
      gloss (.ofConfig { c with rules := c.rules.filter fun e => (Tool.ofName? e.tool).isSome }) vs = gs := by
  intro gs
  have hc : ∀ e ∈ c.rules, '/' ∉ e.tool.toList := by
    intro e he
    obtain ⟨entry, hentry, hkey⟩ := Config.exists_section_of_mem_rules h he
    exact hslash entry hentry e.tool hkey
  refine ⟨?_, ?_, ?_⟩
  · rw [show gs = vs.map _ from rfl, List.map_map]
    exact List.map_id _
  · intro g hg
    obtain ⟨v, -, rfl⟩ := List.mem_map.1 hg
    exact ⟨RuleTable.isSome_get?_ruleKey_iff hc v, RuleTable.get?_ruleKey_eq_some_iff hc v⟩
  · refine List.map_congr_left fun v _ => ?_
    rw [RuleTable.get?_ruleKey_filter hc v]

/-- A code with a slash, which two sections give a rule for. -/
theorem gloss_joins_eslint :
    let s := "rules:\n eslint:\n  a/b: \x7billegal: a, legal: b, why: c\x7d\n" ++
      " mypy:\n  a/b: \x7billegal: d, legal: e, why: f\x7d\n"
    let c : Config := ⟨[], [⟨"eslint", "a/b", ⟨"a", "b", "c"⟩⟩, ⟨"mypy", "a/b", ⟨"d", "e", "f"⟩⟩]⟩
    let v : Violation := .ofParts .eslint "a.ts" 1 1 "a/b" "m"
    Config.parse s = .ok c ∧
      (∀ entry ∈ Config.ruleSections s, ∀ name, keyText entry.1 = .ok name → '/' ∉ name.toList) ∧
      gloss (.ofConfig c) [v] = [⟨v, some ⟨"a", "b", "c"⟩⟩] ∧ IsLastRule c.rules v ⟨"a", "b", "c"⟩ := by
  intro s c v
  have h : Config.parse s = .ok c := eq_ok_of_toOption (by decide +kernel)
  have hnames : (Config.ruleSections s).all (fun entry => (keyText entry.1).toOption.all ('/' ∉ ·.toList)) = true := by
    decide +kernel
  have hslash : ∀ entry ∈ Config.ruleSections s, ∀ name, keyText entry.1 = .ok name → '/' ∉ name.toList := by
    intro entry hentry name hname
    have hall := List.all_eq_true.1 hnames entry hentry
    rw [hname] at hall
    exact of_decide_eq_true hall
  have hgloss : gloss (.ofConfig c) [v] = [⟨v, some ⟨"a", "b", "c"⟩⟩] := by decide +kernel
  have hmem : ⟨v, some ⟨"a", "b", "c"⟩⟩ ∈ gloss (.ofConfig c) [v] := by
    rw [hgloss]
    exact List.mem_singleton_self _
  exact ⟨h, hslash, hgloss, (((gloss_joins h hslash [v]).2.1 _ hmem).2 _).1 rfl⟩

end LintGloss
