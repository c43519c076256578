import LintGloss.Config.Decoder
import LintGloss.Proofs.Steps
/-!
# The faults of a document

`Config.faults` lists all that is wrong with a document, in one order: the section of the linters before that of the
rules, entries as they stand, a key before what is under it, the parts of a rule as they are read.  Reading fails with
the first of them (`Config.blames_ofYaml`).
-/

namespace LintGloss

/-! ## Overrides -/

namespace Override

/-- What the value of a field has to be, if it is known. -/
def wanted? : String → Option Expected
  | "enabled" => some .boolean
  | "config" => some .string
  | "paths" => some .sequence
  | "timeout_secs" => some .wholeNumber
  | _ => none

theorem wanted?_eq_none_iff {field : String} : wanted? field = none ↔ field ∉ fields := by
  unfold wanted? fields
  split <;> simp_all

def stringFaults : Yaml → List OverrideFault
  | .str _ => []
  | v => [.wrongType v .string]

/-- What is wrong with a value without tags where something is wanted. -/
def valueFaults : Expected → Yaml → List OverrideFault
  | .boolean, .bool _ | .sequence, .null | .wholeNumber, .int (.ofNat _) => []
  | .wholeNumber, .int n => [.negative n]
  | .string, v => stringFaults v
  | .sequence, .seq items => items.flatMap fun item => stringFaults item.untagged
  | want, v => [.wrongType v want]

def fieldFaults (want : Expected) : Yaml → List OverrideFault
  | .null => []
  | v => valueFaults want v.untagged

/-- What is wrong with the entries of an override, if some fields stand before them. -/
def faults (seen : List String) : List (Yaml × Yaml) → List OverrideFault
  | [] => []
  | (k, v) :: rest =>
    match k.untagged with
    | .str field =>
      match wanted? field with
      | none => faults seen rest
      | some want =>
        (if field ∈ seen then [.repeated field] else []) ++ fieldFaults want v ++ faults (field :: seen) rest
    | k => .wrongType k .fieldName :: faults seen rest

theorem blames_boolean (v : Yaml) : Blames (boolean v) (valueFaults .boolean v) := by
  cases v <;> constructor

theorem blames_string (v : Yaml) : Blames (string v) (stringFaults v) := by
  cases v <;> constructor

theorem blames_strings (v : Yaml) : Blames (strings v) (valueFaults .sequence v) := by
  cases v with
  | seq items => exact Blames.mapM (fun item => blames_string item.untagged) items
  | _ => constructor

theorem blames_wholeNumber (v : Yaml) : Blames (wholeNumber v) (valueFaults .wholeNumber v) := by
  cases v with
  | int n => cases n <;> constructor
  | _ => constructor

theorem blames_optional {α : Type} {read : Yaml → Except OverrideFault α} {want : Expected}
    (hread : ∀ v, Blames (read v) (valueFaults want v)) (v : Yaml) : Blames (optional read v) (fieldFaults want v) := by
  cases v with
  | null => exact .ok none
  | _ => exact (hread _).map some

theorem blames_set (o : Override) {field : String} {want : Expected} (hwant : wanted? field = some want) (v : Yaml) :
    Blames (o.set field v) (fieldFaults want v) := by
  unfold wanted? at hwant
  split at hwant <;> cases hwant
  · exact (blames_optional blames_boolean v).bind_ok fun _ => ⟨_, rfl⟩
  · exact (blames_optional blames_string v).bind_ok fun _ => ⟨_, rfl⟩
  · exact (blames_optional blames_strings v).bind_ok fun _ => ⟨_, rfl⟩
  · exact (blames_optional blames_wholeNumber v).bind_ok fun _ => ⟨_, rfl⟩

theorem blames_ofEntries : ∀ (entries : List (Yaml × Yaml)) (o : Override) (seen : List String),
    Blames (ofEntries o seen entries) (faults seen entries)
  | [], o, _ => .ok o
  | (k, v) :: rest, o, seen => by
    cases hk : k.untagged with
    | str field =>
      cases hwant : wanted? field with
      | none =>
        simp only [ofEntries, faults, hk, hwant, if_pos (wanted?_eq_none_iff.1 hwant)]
        exact blames_ofEntries rest o seen
      | some want =>
        have hknown : ¬ field ∉ fields := fun hfield => by
          rw [wanted?_eq_none_iff.2 hfield] at hwant
          cases hwant
        simp only [ofEntries, faults, hk, hwant, if_neg hknown]
        -- a field that comes again is the fault, whatever its value
        by_cases hseen : field ∈ seen
        · rw [if_pos hseen, if_pos hseen]
          exact .error _ _
        · rw [if_neg hseen, if_neg hseen, List.nil_append]
          exact (blames_set o hwant v).bind fun o' _ => blames_ofEntries rest o' _
    | _ =>
      simp only [ofEntries, faults, hk]
      exact .error _ _

end Override

/-! ## Keys -/

/-- What is wrong with a key and with what is under it.  A key without a text has nothing under it that can be named. -/
def underKey (k : Yaml) (below : String → List ConfigFault) : List ConfigFault :=
  match keyText k with
  | .error fault => [fault]
  | .ok name => below name

theorem blames_underKey {α : Type} {f : String → Except ConfigFault α} {below : String → List ConfigFault} (k : Yaml)
    (hf : ∀ name, Blames (f name) (below name)) : Blames (keyText k >>= f) (underKey k below) := by
  unfold underKey
  cases keyText k with
  | error fault => exact .error fault _
  | ok name => exact hf name

/-! ## Linters and rules -/

def linterFaults (entry : Yaml × Yaml) : List ConfigFault :=
  underKey entry.1 fun name =>
    match entry.2 with
    | .null => []
    | .map fields => (Override.faults [] fields).map (.override name)
    | _ => [.linterShape name]

theorem blames_linterOf (entry : Yaml × Yaml) : Blames (linterOf entry) (linterFaults entry) := by
  obtain ⟨k, v⟩ := entry
  refine blames_underKey k fun name => ?_
  cases v with
  | null => exact .ok _
  | map fields =>
    have h : Blames (Override.ofEntries {} [] fields) (Override.faults [] fields) := Override.blames_ofEntries _ _ _
    simp only
    generalize Override.ofEntries {} [] fields = x at h ⊢
    generalize Override.faults [] fields = faults at h ⊢
    cases h with
    | ok o => exact .ok _
    | error fault rest => exact .error _ _
  | _ => exact .error _ _

def ruleFieldFaults (tool code : String) (fields : List (Yaml × Yaml)) (field : String) : List ConfigFault :=
  match Yaml.find? field fields with
  | some (.str s) => if Text.isAllBlank s then [.blankField tool code field] else []
  | _ => [.missingField tool code field]

def ruleFaults (tool code : String) : Yaml → List ConfigFault
  | .map fields => ["illegal", "legal", "why"].flatMap (ruleFieldFaults tool code fields)
  | _ => [.ruleShape tool code]

def codeFaults (tool : String) (entry : Yaml × Yaml) : List ConfigFault :=
  underKey entry.1 fun code => ruleFaults tool code entry.2

def toolFaults (entry : Yaml × Yaml) : List ConfigFault :=
  underKey entry.1 fun tool =>
    match entry.2 with
    | .map codes => codes.flatMap (codeFaults tool)
    | _ => [.toolShape tool]

theorem blames_ruleField (tool code : String) (fields : List (Yaml × Yaml)) (field : String) :
    Blames (ruleField tool code fields field) (ruleFieldFaults tool code fields field) := by
  unfold ruleField ruleFieldFaults
  cases Yaml.find? field fields with
  | none => exact .error _ _
  | some found =>
    cases found with
    | str s =>
      by_cases hblank : Text.isAllBlank s
      · simp only [if_pos hblank]
        exact .error _ _
      · simp only [if_neg hblank]
        exact .ok s
    | _ => exact .error _ _

theorem blames_ruleOf (tool code : String) (v : Yaml) : Blames (ruleOf tool code v) (ruleFaults tool code v) := by
  cases v with
  | map fields =>
    have h : ∀ field, Blames (ruleField tool code fields field) (ruleFieldFaults tool code fields field) :=
      blames_ruleField tool code fields
    rw [ruleFaults, List.flatMap_cons, List.flatMap_cons, List.flatMap_cons, List.flatMap_nil]
    exact (h "illegal").bind fun _ _ => (h "legal").bind fun _ _ => (h "why").bind fun _ _ => .ok _
  | _ => exact .error _ _

theorem blames_codeRule (tool : String) (entry : Yaml × Yaml) :
    Blames (codeRule tool entry) (codeFaults tool entry) :=
  blames_underKey entry.1 fun code => (blames_ruleOf tool code entry.2).bind_ok fun _ => ⟨_, rfl⟩

theorem blames_toolRules (entry : Yaml × Yaml) : Blames (toolRules entry) (toolFaults entry) := by
  obtain ⟨k, v⟩ := entry
  refine blames_underKey k fun tool => ?_
  cases v with
  | map codes => exact Blames.mapM (blames_codeRule tool) codes
  | _ => exact .error _ _

/-! ## Documents -/

namespace Config

/-- What is wrong with a section of the root, by what is wrong with its entries. -/
def sectionFaults (name : String) (each : Yaml × Yaml → List ConfigFault) (root : List (Yaml × Yaml)) :
    List ConfigFault :=
  match Yaml.find? name root with
  | none | some .null => []
  | some (.map entries) => entries.flatMap each
  | some _ => [.sectionShape name]

def faults : Yaml → List ConfigFault
  | .null => []
  | .map root => sectionFaults "linters" linterFaults root ++ sectionFaults "rules" toolFaults root
  | _ => [.root]

theorem blames_section {α : Type} {f : Yaml × Yaml → Except ConfigFault α} {each : Yaml × Yaml → List ConfigFault}
    (hf : ∀ entry, Blames (f entry) (each entry)) (name : String) (root : List (Yaml × Yaml)) :
    Blames (section? root name >>= fun entries => entries.mapM f) (sectionFaults name each root) := by
  unfold section? sectionFaults
  cases Yaml.find? name root with
  | none => exact .ok _
  | some found =>
    cases found with
    | null => exact .ok _
    | map entries => exact Blames.mapM hf entries
    | _ => exact .error _ _

theorem ofYaml_map (root : List (Yaml × Yaml)) :
    ofYaml (.map root) = do
      let linters ← section? root "linters" >>= fun entries => entries.mapM linterOf
      let rules ← section? root "rules" >>= fun entries => entries.mapM toolRules
      return ⟨linters, rules.flatten⟩ := by
  simp only [ofYaml, bind_assoc]

/-- **Reading a document fails with the first of its faults**, and succeeds if it has none. -/
theorem blames_ofYaml (v : Yaml) : Blames (ofYaml v) (faults v) := by
  cases v with
  | null => exact .ok _
  | map root =>
    have hlinters := blames_section blames_linterOf "linters" root
    have hrules := blames_section blames_toolRules "rules" root
    rw [ofYaml_map]
    exact hlinters.bind fun linters _ => hrules.bind_ok fun _ => ⟨_, rfl⟩
  | _ => exact .error _ _

end Config

end LintGloss
