import LintGloss.Command
import LintGloss.Proofs.Report.Body
/-!
# Documents

Everything that a command prints is one of six kinds of documents.  Each is written as a JSON object, and the object is
read back as the document, whatever the order of its members (`ofJson?_toJson`, `ofJson?_sortKeys`).
-/

namespace LintGloss

inductive Document
  | report (r : Report)
  | failure (isError : Bool) (code message : String)
  | created (paths : List String) (preset : String) (nextSteps : List String)
  | valid (linters : List String) (ruleCount : Nat)
  | invalid (messages : List String)
  | listing (count : Nat) (rules : List (String × String))
  deriving DecidableEq, Repr

namespace Document

open Json (text? natural? items?)

/-! ## Writing -/

def messageJson (message : String) : Json := .obj [("message", .str message)]

def ruleJson (e : String × String) : Json := .obj [("tool", .str e.1), ("code", .str e.2)]

def toJson : Document → Json
  | report r => r.toJson
  | failure isError code message => .obj [("error", .bool isError), ("code", .str code), ("message", .str message)]
  | created paths preset nextSteps =>
    .obj [("created", .strings paths), ("preset", .str preset), ("next_steps", .strings nextSteps)]
  | valid linters ruleCount =>
    .obj [("valid", .bool true), ("linters", .strings linters), ("rules_count", .nat ruleCount)]
  | invalid messages => .obj [("valid", .bool false), ("errors", .arr (messages.map messageJson))]
  | listing count rules => .obj [("count", .nat count), ("rules", .arr (rules.map ruleJson))]

theorem toJson_listing (c : Config) :
    (listing c.rules.length (c.rules.map fun e => (e.tool, e.code))).toJson = Command.listJson c := by
  rw [toJson, Command.listJson, List.map_map]
  rfl

/-! ## Reading -/

/-- A truth value that has to be there. -/
def truth? : Option Json → Option Bool
  | some (.bool b) => some b
  | _ => none

/-- An array of strings that has to be there. -/
def texts? (j : Option Json) : Option (List String) := do (← items? j).mapM fun s => text? (some s)

def failure? (j : Json) : Option Document := do
  return failure (← truth? (j.member? "error")) (← text? (j.member? "code")) (← text? (j.member? "message"))

def created? (j : Json) : Option Document := do
  return created (← texts? (j.member? "created")) (← text? (j.member? "preset")) (← texts? (j.member? "next_steps"))

def valid? (j : Json) : Option Document := do
  if ← truth? (j.member? "valid") then
    return valid (← texts? (j.member? "linters")) (← natural? (j.member? "rules_count"))
  else none

def message? (j : Json) : Option String := text? (j.member? "message")

def invalid? (j : Json) : Option Document := do
  if ← truth? (j.member? "valid") then none
  else return invalid (← (← items? (j.member? "errors")).mapM message?)

def rule? (j : Json) : Option (String × String) := do
  return (← text? (j.member? "tool"), ← text? (j.member? "code"))

def listing? (j : Json) : Option Document := do
  return listing (← natural? (j.member? "count")) (← (← items? (j.member? "rules")).mapM rule?)

def ofJson? (j : Json) : Option Document :=
  (Report.ofJson? j).map report <|> failure? j <|> created? j <|> valid? j <|> invalid? j <|> listing? j

/-! ## The order of the members -/

@[simp] theorem truth?_map_sortKeys (o : Option Json) : truth? (o.map Json.sortKeys) = truth? o := by
  rcases o with _ | (_ | _ | _ | _ | _ | _ | _) <;> rfl

@[simp] theorem texts?_map_sortKeys (o : Option Json) : texts? (o.map Json.sortKeys) = texts? o := by
  have htext (j : Json) : text? (some j.sortKeys) = text? (some j) := text?_map_sortKeys (some j)
  simp [texts?, Option.bind_map, Function.comp_def, htext]

theorem message?_sortKeys (j : Json) : message? j.sortKeys = message? j := by simp [message?]

theorem rule?_sortKeys (j : Json) : rule? j.sortKeys = rule? j := by simp [rule?]

/-- **The order of the members does not matter.** -/
theorem ofJson?_sortKeys (j : Json) : ofJson? j.sortKeys = ofJson? j := by
  have hfailure : failure? j.sortKeys = failure? j := by simp [failure?]
  have hcreated : created? j.sortKeys = created? j := by simp [created?]
  have hvalid : valid? j.sortKeys = valid? j := by simp [valid?]
  have hinvalid : invalid? j.sortKeys = invalid? j := by
    simp [invalid?, Option.bind_map, Function.comp_def, message?_sortKeys]
  have hlisting : listing? j.sortKeys = listing? j := by
    simp [listing?, Option.bind_map, Function.comp_def, rule?_sortKeys]
  rw [ofJson?, Report.ofJson?_sortKeys, hfailure, hcreated, hvalid, hinvalid, hlisting]
  rfl

/-! ## What is written is read -/

@[simp] theorem truth?_none : truth? none = none := rfl

@[simp] theorem text?_none : text? none = none := rfl

@[simp] theorem texts?_none : texts? none = none := rfl

@[simp] theorem natural?_none : natural? none = none := rfl

@[simp] theorem truth?_bool (b : Bool) : truth? (some (.bool b)) = some b := rfl

@[simp] theorem texts?_strings (xs : List String) : texts? (some (.strings xs)) = some xs :=
  @mapM_map_of_read String Json (fun s => text? (some s)) Json.str text?_str xs

theorem rule?_ruleJson (e : String × String) : rule? (ruleJson e) = some e := by
  simp [rule?, ruleJson, Json.member?, lastOf?]

theorem message?_messageJson (message : String) : message? (messageJson message) = some message := by
  simp [message?, messageJson, Json.member?, lastOf?]

/-- What is counted for tools stands in the order of their names, and no tool stands twice. -/
def InOrder : Document → Prop
  | report r => (r.summary.byTool.map (·.1)).Sublist Tool.alphabetic
  | _ => True

/-- **A document is read back** from its object. -/
theorem ofJson?_toJson {d : Document} (h : d.InOrder) : ofJson? d.toJson = some d := by
  cases d with
  | report r =>
    rw [ofJson?, toJson, Report.ofJson?_toJson h]
    rfl
  | failure | created | valid =>
    simp [ofJson?, toJson, Report.ofJson?, failure?, created?, valid?, invalid?, listing?, Json.member?, lastOf?]
  | invalid messages =>
    have hmessages := mapM_map_of_read message?_messageJson messages
    simp [ofJson?, toJson, Report.ofJson?, failure?, created?, valid?, invalid?, Json.member?, lastOf?, hmessages,
      -List.mapM_map]
  | listing count rules =>
    have hrules := mapM_map_of_read rule?_ruleJson rules
    simp [ofJson?, toJson, Report.ofJson?, failure?, created?, valid?, invalid?, listing?, Json.member?, lastOf?,
      hrules, -List.mapM_map]

end Document

end LintGloss
