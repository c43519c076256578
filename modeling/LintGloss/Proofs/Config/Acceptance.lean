import LintGloss.Proofs.Config
import LintGloss.Proofs.Config.Faults
/-!
# Which documents are accepted

A document is accepted exactly if it is well-formed, and its rules are then in the configuration as they stand in it;
otherwise the first of its faults is reported (`Config.parse_decides`).

In an override, and nowhere else, tags are looked through.  `WellFormed` therefore takes how the keys and values there
are viewed: without their tags (`Yaml.untagged`) it says what is accepted, and as they are (`id`) it does not
(`Config.exists_accepted_tagged`).
-/

namespace LintGloss

/-! ## Well-formed documents -/

/-- What can be a key: a string, a number or a boolean. -/
inductive Yaml.IsKey : Yaml → Prop
  | str (s : String) : IsKey (.str s)
  | int (n : Int) : IsKey (.int n)
  | real (x : Binary64) : IsKey (.real x)
  | bool (b : Bool) : IsKey (.bool b)

namespace Override

section

variable (view : Yaml → Yaml)

def Allows (want : Expected) (v : Yaml) : Prop :=
  match want with
  | .boolean => ∃ b, v = .bool b
  | .string => ∃ s, v = .str s
  | .sequence => v = .null ∨ ∃ items, v = .seq items ∧ ∀ item ∈ items, ∃ s, view item = .str s
  | .wholeNumber => ∃ n : Nat, n < Nat.pow 2 64 ∧ v = .int n
  | .fieldName => False

/-- An entry with a string for its key, whose value is right if the field is known. -/
def IsField (e : Yaml × Yaml) : Prop :=
  ∃ field, view e.1 = .str field ∧ ∀ want, wanted? field = some want → e.2 = .null ∨ Allows view want (view e.2)

def known? (e : Yaml × Yaml) : Option String :=
  match view e.1 with
  | .str field => if (wanted? field).isSome then some field else none
  | _ => none

structure IsWritten (entries : List (Yaml × Yaml)) : Prop where
  fields : ∀ e ∈ entries, IsField view e
  once : (entries.filterMap (known? view)).Nodup

end

end Override

/-- The three strings of a rule, which are not blank. -/
structure Rule.IsWrittenBy (fields : List (Yaml × Yaml)) (rule : Rule) : Prop where
  illegal : Yaml.find? "illegal" fields = some (.str rule.illegal) ∧ Text.isAllBlank rule.illegal = false
  legal : Yaml.find? "legal" fields = some (.str rule.legal) ∧ Text.isAllBlank rule.legal = false
  why : Yaml.find? "why" fields = some (.str rule.why) ∧ Text.isAllBlank rule.why = false

namespace Config

inductive IsLinter (view : Yaml → Yaml) : Yaml × Yaml → Prop
  | null {k : Yaml} (hk : k.IsKey) : IsLinter view (k, .null)
  | map {k : Yaml} {fields : List (Yaml × Yaml)} (hk : k.IsKey) (hfields : Override.IsWritten view fields) :
    IsLinter view (k, .map fields)

inductive IsCode : Yaml × Yaml → Prop
  | map {k : Yaml} {fields : List (Yaml × Yaml)} {rule : Rule} (hk : k.IsKey) (hrule : rule.IsWrittenBy fields) :
    IsCode (k, .map fields)

inductive IsTool : Yaml × Yaml → Prop
  | map {k : Yaml} {codes : List (Yaml × Yaml)} (hk : k.IsKey) (hcodes : ∀ e ∈ codes, IsCode e) : IsTool (k, .map codes)

/-- Whether a section of the root is absent, null or a mapping of the right entries. -/
def HasSection (root : List (Yaml × Yaml)) (name : String) (P : Yaml × Yaml → Prop) : Prop :=
  ∀ v, Yaml.find? name root = some v → v = .null ∨ ∃ entries, v = .map entries ∧ ∀ e ∈ entries, P e

inductive WellFormed (view : Yaml → Yaml) : Yaml → Prop
  | null : WellFormed view .null
  | map {root : List (Yaml × Yaml)} (hlinters : HasSection root "linters" (IsLinter view))
    (hrules : HasSection root "rules" IsTool) : WellFormed view (.map root)

end Config

/-! ## No faults -/

theorem Yaml.isKey_iff {k : Yaml} : k.IsKey ↔ ∃ name, keyText k = .ok name := by
  constructor
  · rintro (s | n | x | b) <;> exact ⟨_, rfl⟩
  · rintro ⟨name, hname⟩
    cases k with
    | str | int | real | bool => constructor
    | null | seq | map | tagged => cases hname

theorem underKey_eq_nil_iff {k : Yaml} {below : String → List ConfigFault} :
    underKey k below = [] ↔ ∃ name, keyText k = .ok name ∧ below name = [] := by
  unfold underKey
  cases keyText k <;> simp

namespace Override

theorem stringFaults_eq_nil_iff {v : Yaml} : stringFaults v = [] ↔ ∃ s, v = .str s := by
  cases v <;> simp [stringFaults]

theorem valueFaults_eq_nil_iff {want : Expected} {v : Yaml} (hv : v.Sized) :
    valueFaults want v = [] ↔ Allows Yaml.untagged want v := by
  cases want with
  | boolean => cases v <;> simp [valueFaults, Allows]
  | string => exact stringFaults_eq_nil_iff
  | sequence => cases v <;> simp [valueFaults, Allows, stringFaults_eq_nil_iff]
  | wholeNumber =>
    cases hv with
    | @int n hn =>
      cases n with
      | ofNat m =>
        have hm : m < Nat.pow 2 64 := Int.ofNat_lt.1 hn.2
        exact ⟨fun _ => ⟨m, hm, rfl⟩, fun _ => rfl⟩
      | negSucc m => simp [valueFaults, Allows]
    | _ => simp [valueFaults, Allows]
  | fieldName => cases v <;> simp [valueFaults, Allows]

theorem sized_untagged {v : Yaml} (hv : v.Sized) : v.untagged.Sized := by
  induction hv with
  | tagged tag hv ih => exact ih
  | _ => constructor <;> assumption

theorem fieldFaults_eq_nil_iff {want : Expected} {v : Yaml} (hv : v.Sized) :
    fieldFaults want v = [] ↔ v = .null ∨ Allows Yaml.untagged want v.untagged := by
  have h : valueFaults want v.untagged = [] ↔ Allows Yaml.untagged want v.untagged :=
    valueFaults_eq_nil_iff (sized_untagged hv)
  cases v with
  | null => simp [fieldFaults]
  | _ => simpa [fieldFaults] using h

theorem isWritten_nil {view : Yaml → Yaml} : IsWritten view [] := ⟨List.forall_mem_nil _, List.nodup_nil⟩

theorem isWritten_cons_iff {view : Yaml → Yaml} {e : Yaml × Yaml} {rest : List (Yaml × Yaml)} :
    IsWritten view (e :: rest) ↔
      IsField view e ∧ IsWritten view rest ∧
        ∀ field, known? view e = some field → field ∉ rest.filterMap (known? view) := by
  constructor
  · rintro ⟨hfields, honce⟩
    obtain ⟨he, hrest⟩ := List.forall_mem_cons.1 hfields
    cases hknown : known? view e with
    | none =>
      rw [List.filterMap_cons_none hknown] at honce
      exact ⟨he, ⟨hrest, honce⟩, fun field h => by cases h⟩
    | some name =>
      rw [List.filterMap_cons_some hknown] at honce
      obtain ⟨hnew, honce⟩ := List.nodup_cons.1 honce
      exact ⟨he, ⟨hrest, honce⟩, fun field h => Option.some.inj h ▸ hnew⟩
  · rintro ⟨he, ⟨hrest, honce⟩, hnew⟩
    refine ⟨List.forall_mem_cons.2 ⟨he, hrest⟩, ?_⟩
    cases hknown : known? view e with
    | none => rwa [List.filterMap_cons_none hknown]
    | some name =>
      rw [List.filterMap_cons_some hknown]
      exact List.nodup_cons.2 ⟨hnew name hknown, honce⟩

/-- The entries have no fault exactly if they are well-formed and the fields before them do not come again. -/
theorem faults_eq_nil_iff : ∀ {entries : List (Yaml × Yaml)} {seen : List String}, (∀ e ∈ entries, e.2.Sized) →
    (faults seen entries = [] ↔
      IsWritten Yaml.untagged entries ∧ ∀ field ∈ entries.filterMap (known? Yaml.untagged), field ∉ seen)
  | [], seen, _ => by simp [faults, isWritten_nil]
  | (k, v) :: rest, seen, hsized => by
    obtain ⟨hv, hrest⟩ := List.forall_mem_cons.1 hsized
    rw [isWritten_cons_iff]
    cases hk : k.untagged with
    | str field =>
      cases hwant : wanted? field with
      | none =>
        -- an unknown field has no faults and is not counted
        have hfield : IsField Yaml.untagged (k, v) := ⟨field, hk, fun want h => by simp [hwant] at h⟩
        have hknown : known? Yaml.untagged (k, v) = none := by simp [known?, hk, hwant]
        have ih : faults seen rest = [] ↔ IsWritten Yaml.untagged rest ∧
            ∀ f ∈ rest.filterMap (known? Yaml.untagged), f ∉ seen := faults_eq_nil_iff hrest
        simp only [faults, hk, hwant, List.filterMap_cons_none hknown, ih]
        simp [hfield, hknown]
      | some want =>
        -- a known field must be new, and stands before the rest
        have hfield : IsField Yaml.untagged (k, v) ↔ fieldFaults want v = [] := by
          rw [fieldFaults_eq_nil_iff hv]
          simp [IsField, hk, hwant]
        have hknown : known? Yaml.untagged (k, v) = some field := by simp [known?, hk, hwant]
        have ih : faults (field :: seen) rest = [] ↔ IsWritten Yaml.untagged rest ∧
            ∀ f ∈ rest.filterMap (known? Yaml.untagged), f ∉ field :: seen := faults_eq_nil_iff hrest
        have hrepeated : (if field ∈ seen then [OverrideFault.repeated field] else []) = [] ↔ field ∉ seen := by
          by_cases hseen : field ∈ seen <;> simp [hseen]
        simp only [faults, hk, hwant, List.append_eq_nil_iff, ih, List.filterMap_cons_some hknown, hfield, hknown,
          hrepeated]
        constructor
        · rintro ⟨⟨hseen, hvalue⟩, hwritten, hlater⟩
          refine ⟨⟨hvalue, hwritten, fun f hf hmem => ?_⟩, List.forall_mem_cons.2 ⟨hseen, fun f hmem h => ?_⟩⟩
          · cases hf
            exact hlater field hmem List.mem_cons_self
          · exact hlater f hmem (List.mem_cons_of_mem _ h)
        · rintro ⟨⟨hvalue, hwritten, honce⟩, hseen⟩
          obtain ⟨hseen, hlater⟩ := List.forall_mem_cons.1 hseen
          refine ⟨⟨hseen, hvalue⟩, hwritten, fun f hmem h => ?_⟩
          obtain rfl | h := List.mem_cons.1 h
          · exact honce f rfl hmem
          · exact hlater f hmem h
    | _ =>
      have hfield : ¬ IsField Yaml.untagged (k, v) := by simp [IsField, hk]
      simp [faults, hk, hfield]

end Override

theorem ruleField_eq_ok_iff {tool code : String} {fields : List (Yaml × Yaml)} {field s : String} :
    ruleField tool code fields field = .ok s ↔
      Yaml.find? field fields = some (.str s) ∧ Text.isAllBlank s = false := by
  unfold ruleField
  split
  · rename_i t ht
    by_cases hblank : Text.isAllBlank t
    · simp only [if_pos hblank, ht, Option.some.injEq, Yaml.str.injEq, reduceCtorEq, false_iff]
      rintro ⟨rfl, h⟩
      simp [hblank] at h
    · simp only [if_neg hblank, ht, Option.some.injEq, Yaml.str.injEq, Except.ok.injEq, iff_self_and]
      rintro rfl
      simpa using hblank
  · rename_i h
    simp only [reduceCtorEq, false_iff]
    exact fun hs => h s hs.1

theorem ruleOf_eq_ok_iff {tool code : String} {v : Yaml} {rule : Rule} :
    ruleOf tool code v = .ok rule ↔ ∃ fields, v = .map fields ∧ rule.IsWrittenBy fields := by
  constructor
  · intro h
    cases v with
    | map fields =>
      obtain ⟨illegal, hillegal, h⟩ := bind_eq_ok_iff.1 h
      obtain ⟨legal, hlegal, h⟩ := bind_eq_ok_iff.1 h
      obtain ⟨why, hwhy, h⟩ := bind_eq_ok_iff.1 h
      cases h
      exact ⟨fields, rfl, ⟨ruleField_eq_ok_iff.1 hillegal, ruleField_eq_ok_iff.1 hlegal, ruleField_eq_ok_iff.1 hwhy⟩⟩
    | _ => cases h
  · rintro ⟨fields, rfl, hrule⟩
    refine bind_eq_ok_iff.2 ⟨_, ruleField_eq_ok_iff.2 hrule.illegal, ?_⟩
    refine bind_eq_ok_iff.2 ⟨_, ruleField_eq_ok_iff.2 hrule.legal, ?_⟩
    exact bind_eq_ok_iff.2 ⟨_, ruleField_eq_ok_iff.2 hrule.why, rfl⟩

theorem ruleFaults_eq_nil_iff {tool code : String} {v : Yaml} :
    ruleFaults tool code v = [] ↔ ∃ (fields : List (Yaml × Yaml)) (rule : Rule), v = .map fields ∧ rule.IsWrittenBy fields := by
  rw [← (blames_ruleOf tool code v).exists_ok_iff, exists_comm]
  exact exists_congr fun rule => ruleOf_eq_ok_iff

namespace Config

theorem codeFaults_eq_nil_iff {tool : String} {entry : Yaml × Yaml} : codeFaults tool entry = [] ↔ IsCode entry := by
  obtain ⟨k, v⟩ := entry
  rw [codeFaults, underKey_eq_nil_iff]
  constructor
  · rintro ⟨code, hcode, hfaults⟩
    obtain ⟨fields, rule, rfl, hrule⟩ := ruleFaults_eq_nil_iff.1 hfaults
    exact .map (Yaml.isKey_iff.2 ⟨code, hcode⟩) hrule
  · rintro ⟨hk, hrule⟩
    obtain ⟨code, hcode⟩ := Yaml.isKey_iff.1 hk
    exact ⟨code, hcode, ruleFaults_eq_nil_iff.2 ⟨_, _, rfl, hrule⟩⟩

theorem toolFaults_eq_nil_iff {entry : Yaml × Yaml} : toolFaults entry = [] ↔ IsTool entry := by
  obtain ⟨k, v⟩ := entry
  rw [toolFaults, underKey_eq_nil_iff]
  constructor
  · rintro ⟨tool, htool, hcodes⟩
    cases v with
    | map codes =>
      refine .map (Yaml.isKey_iff.2 ⟨tool, htool⟩) fun e he => ?_
      exact codeFaults_eq_nil_iff.1 (List.flatMap_eq_nil_iff.1 hcodes e he)
    | _ => cases hcodes
  · rintro ⟨hk, hcodes⟩
    obtain ⟨tool, htool⟩ := Yaml.isKey_iff.1 hk
    exact ⟨tool, htool, List.flatMap_eq_nil_iff.2 fun e he => codeFaults_eq_nil_iff.2 (hcodes e he)⟩

theorem linterFaults_eq_nil_iff {entry : Yaml × Yaml} (hsized : entry.2.Sized) :
    linterFaults entry = [] ↔ IsLinter Yaml.untagged entry := by
  obtain ⟨k, v⟩ := entry
  have hfields : ∀ fields, v = .map fields →
      (Override.faults [] fields = [] ↔ Override.IsWritten Yaml.untagged fields) := by
    rintro fields rfl
    cases hsized with
    | map hkeys hvalues => simp [Override.faults_eq_nil_iff hvalues]
  rw [linterFaults, underKey_eq_nil_iff]
  constructor
  · rintro ⟨name, hname, hv⟩
    have hk : k.IsKey := Yaml.isKey_iff.2 ⟨name, hname⟩
    cases v with
    | null => exact .null hk
    | map fields => exact .map hk ((hfields fields rfl).1 (List.map_eq_nil_iff.1 hv))
    | _ => cases hv
  · intro hlinter
    cases hlinter with
    | null hk =>
      obtain ⟨name, hname⟩ := Yaml.isKey_iff.1 hk
      exact ⟨name, hname, rfl⟩
    | map hk hwritten =>
      obtain ⟨name, hname⟩ := Yaml.isKey_iff.1 hk
      exact ⟨name, hname, List.map_eq_nil_iff.2 ((hfields _ rfl).2 hwritten)⟩

theorem sectionFaults_eq_nil_iff {name : String} {each : Yaml × Yaml → List ConfigFault} {root : List (Yaml × Yaml)}
    {P : Yaml × Yaml → Prop} (hroot : (Yaml.map root).Sized) (heach : ∀ e : Yaml × Yaml, e.2.Sized → (each e = [] ↔ P e)) :
    sectionFaults name each root = [] ↔ HasSection root name P := by
  unfold sectionFaults HasSection
  cases hfound : Yaml.find? name root with
  | none => simp
  | some found =>
    cases found with
    | map entries =>
      have hentries : ∀ e ∈ entries, e.2.Sized := by
        cases hroot with
        | map hkeys hvalues =>
          obtain ⟨e, he, hvalue⟩ := exists_mem_of_find? hfound
          have hsized : (Yaml.map entries).Sized := hvalue ▸ hvalues e he
          cases hsized with
          | map hkeys hvalues => exact hvalues
      constructor
      · rintro h v ⟨⟩
        exact .inr ⟨entries, rfl, fun e he => (heach e (hentries e he)).1 (List.flatMap_eq_nil_iff.1 h e he)⟩
      · intro h
        obtain h | ⟨_, ⟨⟩, h⟩ := h _ rfl
        · cases h
        · exact List.flatMap_eq_nil_iff.2 fun e he => (heach e (hentries e he)).2 (h e he)
    | _ => simp

theorem faults_eq_nil_iff {v : Yaml} (hv : v.Sized) : faults v = [] ↔ WellFormed Yaml.untagged v := by
  cases v with
  | null => exact ⟨fun _ => .null, fun _ => rfl⟩
  | map root =>
    have hlinters : sectionFaults "linters" linterFaults root = [] ↔
        HasSection root "linters" (IsLinter Yaml.untagged) :=
      sectionFaults_eq_nil_iff hv fun e => linterFaults_eq_nil_iff
    have hrules : sectionFaults "rules" toolFaults root = [] ↔ HasSection root "rules" IsTool :=
      sectionFaults_eq_nil_iff hv fun e _ => toolFaults_eq_nil_iff
    rw [faults, List.append_eq_nil_iff, hlinters, hrules]
    exact ⟨fun h => .map h.1 h.2, fun | .map hlinters hrules => ⟨hlinters, hrules⟩⟩
  | _ => constructor <;> intro h <;> cases h

/-! ## Rules -/

/-- Where rules stand under an entry: the key of the tool, that of the code and what is under both. -/
def placesUnder (entry : Yaml × Yaml) : List (Yaml × Yaml × Yaml) :=
  match entry.2 with
  | .map codes => codes.map fun code => (entry.1, code)
  | _ => []

/-- Where the rules of a document stand, in its order. -/
def rulePlaces (v : Yaml) : List (Yaml × Yaml × Yaml) := (entriesUnder "rules" v).flatMap placesUnder

/-- A rule under the texts of two keys, with the strings that stand there. -/
structure IsRuleAt (place : Yaml × Yaml × Yaml) (e : RuleEntry) : Prop where
  tool : keyText place.1 = .ok e.tool
  code : keyText place.2.1 = .ok e.code
  rule : ∃ fields, place.2.2 = .map fields ∧ e.rule.IsWrittenBy fields

theorem isRuleAt_of_codeRule {tool : String} {k : Yaml} {entry : Yaml × Yaml} {e : RuleEntry}
    (htool : keyText k = .ok tool) (h : codeRule tool entry = .ok e) : IsRuleAt (k, entry) e := by
  obtain ⟨code, rule, hcode, hrule, rfl⟩ := codeRule_eq_ok_iff.1 h
  exact ⟨htool, hcode, ruleOf_eq_ok_iff.1 hrule⟩

theorem forall₂_isRuleAt_of_toolRules {entry : Yaml × Yaml} {es : List RuleEntry} (h : toolRules entry = .ok es) :
    List.Forall₂ IsRuleAt (placesUnder entry) es := by
  obtain ⟨tool, codes, htool, hentry, hcodes⟩ := toolRules_eq_ok_iff.1 h
  rw [placesUnder, hentry]
  refine List.forall₂_map_left_iff.2 ((forall₂_of_mapM hcodes).imp fun code e he => ?_)
  exact isRuleAt_of_codeRule htool he

/-- The rules of an accepted document stand in the configuration as in the document, one for one. -/
theorem forall₂_isRuleAt {v : Yaml} {c : Config} (h : ofYaml v = .ok c) :
    List.Forall₂ IsRuleAt (rulePlaces v) c.rules := by
  obtain ⟨rules, hrules, hc⟩ := exists_rules_of_ofYaml h
  rw [rulePlaces, hc, List.flatMap_def]
  refine List.rel_flatten (List.forall₂_map_left_iff.2 ((forall₂_of_mapM hrules).imp fun entry es hes => ?_))
  exact forall₂_isRuleAt_of_toolRules hes

/-! ## Acceptance -/

/-- What a document decides: whether it is accepted, with which rules, and otherwise with which fault it is refused. -/
structure Decides (v : Yaml) (x : Except ConfigFault Config) : Prop where
  accepts : (∃ c, x = .ok c) ↔ WellFormed Yaml.untagged v
  rules : ∀ c, x = .ok c → List.Forall₂ IsRuleAt (rulePlaces v) c.rules
  refuses : ∀ fault, x = .error fault ↔ (faults v).head? = some fault

/-- **Exactly the well-formed documents are accepted**, with their rules in their order, and of any other the first
fault is reported. -/
theorem parse_decides :
    (∀ v : Yaml, v.Sized → Decides v (ofYaml v)) ∧
      (∀ s, Text.isAllBlank s = true → parse s = .ok {}) ∧
      ∀ s, Text.isAllBlank s = false →
        (Yaml.parse? s.toList = none → parse s = .error .malformed) ∧
          ∀ v, Yaml.parse? s.toList = some v → v.Sized ∧ parse s = (ofYaml v).mapError .invalid := by
  refine ⟨fun v hv => ⟨?_, fun c hc => forall₂_isRuleAt hc, fun fault => (blames_ofYaml v).eq_error_iff⟩, ?_, ?_⟩
  · rw [(blames_ofYaml v).exists_ok_iff, faults_eq_nil_iff hv]
  · intro s hs
    rw [parse, if_pos hs]
  · intro s hs
    rw [parse, if_neg (by simp [hs])]
    refine ⟨fun h => by rw [h], fun v hv => ⟨Yaml.sized_of_parse? hv, by rw [hv]⟩⟩

theorem parse_decides_blank_why :
    let v := Yaml.map [(.str "rules", .map [(.str "ruff", .map [(.str "F401",
      .map [(.str "illegal", .str "a"), (.str "legal", .str "b"), (.str "why", .str " ")])])])]
    v.Sized ∧ ofYaml v = .error (.blankField "ruff" "F401" "why") ∧ parse " " = .ok {} ∧
      parse "rules: [unclosed" = .error .malformed := by
  intro v
  have hsized : v.Sized := by
    repeat' first | exact .str _ | refine .map ?_ ?_ | refine List.forall_mem_cons.2 ⟨?_, ?_⟩ | exact List.forall_mem_nil _
  have hopen : Yaml.parse? "rules: [unclosed".toList = none := Option.isNone_iff_eq_none.1 (by decide +kernel)
  obtain ⟨htrees, hblank, htexts⟩ := parse_decides
  exact ⟨hsized, ((htrees v hsized).refuses _).2 rfl, hblank " " (by decide), (htexts _ (by decide)).1 hopen⟩

/-- A value that is neither null nor a string, since it has a tag, is accepted where a string is wanted.  Nor are tags
nothing: a null that has one is refused where a bare null is accepted. -/
theorem exists_accepted_tagged :
    let s := "linters:\n  ruff:\n    config: !t x\n"
    let v := Yaml.map [(.str "linters", .map [(.str "ruff", .map [(.str "config", .tagged "t" (.str "x"))])])]
    let c : Config := ⟨[("ruff", { config := some "x" })], []⟩
    let w := Yaml.map [(.str "linters", .map [(.str "ruff", .map [(.str "enabled", .tagged "!" .null)])])]
    (Yaml.parse? s.toList).any v.same = true ∧ parse s = .ok c ∧ ofYaml v = .ok c ∧ ¬ WellFormed id v ∧
      ofYaml w = .error (.override "ruff" (.wrongType .null .boolean)) := by
  intro s v c w
  refine ⟨by decide +kernel, eq_ok_of_toOption (by decide +kernel), rfl, fun h => ?_, rfl⟩
  simp only [v] at h
  cases h with
  | map hlinters hrules =>
    obtain h | ⟨entries, hentries, hlinter⟩ := hlinters _ rfl
    · cases h
    · cases hentries
      cases hlinter _ List.mem_cons_self with
      | map hk hfields =>
        -- the tag is part of the value, which is therefore no string
        obtain ⟨field, hfield, hvalue⟩ := hfields.fields _ List.mem_cons_self
        cases hfield
        obtain h | ⟨t, h⟩ := hvalue .string rfl <;> cases h

end Config

end LintGloss
