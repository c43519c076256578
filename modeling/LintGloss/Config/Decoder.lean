import LintGloss.Config
import LintGloss.Config.Fault
import LintGloss.Yaml.Document
/-!
# From YAML to configurations

`Config.ofYaml` takes a document apart in one order: the root, the linters as they
stand, the rules as they stand.  The first fault in that order is the one that is
reported.  A blank text and an empty document are the empty configuration.
-/

namespace LintGloss

/-- The text of a key, which can be a string, a number or a boolean. -/
def keyText (k : Yaml) : Except ConfigFault String :=
  match k with
  | .str s => .ok s
  | .int n => .ok (String.ofList (Decimal.ofInt n))
  | .real x => .ok (String.ofList (Yaml.realText x))
  | .bool b => .ok (Yaml.boolText b)
  | k => .error (.key k)

/-- The entries of a section of the root.  A section may be missing or null. -/
def section? (root : List (Yaml × Yaml)) (name : String) :
    Except ConfigFault (List (Yaml × Yaml)) :=
  match Yaml.find? name root with
  | none | some .null => .ok []
  | some (.map entries) => .ok entries
  | some _ => .error (.sectionShape name)

/-! ## Overrides -/

namespace Override

/-- The values of fields.  Each is given without its tags. -/
def boolean : Yaml → Except OverrideFault Bool
  | .bool b => .ok b
  | v => .error (.wrongType v .boolean)

def string : Yaml → Except OverrideFault String
  | .str s => .ok s
  | v => .error (.wrongType v .string)

/-- A null that stands here has a tag, since a bare one leaves the field out; it is an empty
sequence. -/
def strings : Yaml → Except OverrideFault (List String)
  | .seq items => items.mapM fun v => string v.untagged
  | .null => .ok []
  | v => .error (.wrongType v .sequence)

def wholeNumber : Yaml → Except OverrideFault Nat
  | .int (.ofNat n) => .ok n
  | .int n => .error (.negative n)
  | v => .error (.wrongType v .wholeNumber)

/-- The value of a field that can be null. -/
def optional {α : Type} (read : Yaml → Except OverrideFault α) (v : Yaml) :
    Except OverrideFault (Option α) :=
  match v with
  | .null => .ok none
  | v => (read v.untagged).map some

def fields : List String := ["enabled", "config", "paths", "timeout_secs"]

def set (o : Override) (field : String) (v : Yaml) : Except OverrideFault Override :=
  match field with
  | "enabled" => do return { o with enabled := ← optional boolean v }
  | "config" => do return { o with config := ← optional string v }
  | "paths" => do return { o with paths := ← optional strings v }
  | "timeout_secs" => do return { o with timeoutSecs := ← optional wholeNumber v }
  | _ => return o

/-- Reads the entries of an override in their order; `seen` holds the known fields before
them.  A field can come twice under different tags, and must not. -/
def ofEntries (o : Override) (seen : List String) :
    List (Yaml × Yaml) → Except OverrideFault Override
  | [] => .ok o
  | (k, v) :: rest =>
    match k.untagged with
    | .str field =>
      if field ∉ fields then ofEntries o seen rest
      else if field ∈ seen then .error (.repeated field)
      else do ofEntries (← o.set field v) (field :: seen) rest
    | k => .error (.wrongType k .fieldName)

end Override

def linterOf (entry : Yaml × Yaml) : Except ConfigFault (String × Override) := do
  let name ← keyText entry.1
  match entry.2 with
  | .null => return (name, {})
  | .map entries =>
    match Override.ofEntries {} [] entries with
    | .ok o => return (name, o)
    | .error fault => throw (.override name fault)
  | _ => throw (.linterShape name)

/-! ## Rules -/

/-- A field of a rule, which has to be a string that is not blank. -/
def ruleField (tool code : String) (fields : List (Yaml × Yaml)) (field : String) :
    Except ConfigFault String :=
  match Yaml.find? field fields with
  | some (.str s) => if Text.isAllBlank s then .error (.blankField tool code field) else .ok s
  | _ => .error (.missingField tool code field)

def ruleOf (tool code : String) (v : Yaml) : Except ConfigFault Rule := do
  match v with
  | .map fields =>
    return {
      illegal := ← ruleField tool code fields "illegal"
      legal := ← ruleField tool code fields "legal"
      why := ← ruleField tool code fields "why" }
  | _ => throw (.ruleShape tool code)

def codeRule (tool : String) (entry : Yaml × Yaml) : Except ConfigFault RuleEntry := do
  let code ← keyText entry.1
  return ⟨tool, code, ← ruleOf tool code entry.2⟩

def toolRules (entry : Yaml × Yaml) : Except ConfigFault (List RuleEntry) := do
  let tool ← keyText entry.1
  match entry.2 with
  | .map codes => codes.mapM (codeRule tool)
  | _ => throw (.toolShape tool)

/-! ## Documents -/

namespace Config

/-- The configuration that a document writes. -/
def ofYaml : Yaml → Except ConfigFault Config
  | .null => .ok {}
  | .map root => do
    let linters ← (← section? root "linters").mapM linterOf
    let rules ← (← section? root "rules").mapM toolRules
    return ⟨linters, rules.flatten⟩
  | _ => .error .root

def parse (s : String) : Except ConfigError Config :=
  if Text.isAllBlank s then .ok {}
  else match Yaml.parse? s.toList with
    | none => .error .malformed
    | some v => (ofYaml v).mapError .invalid

end Config

end LintGloss
