import LintGloss.Proofs.Diagnostic
import LintGloss.Proofs.Json.Record
import LintGloss.Proofs.Json.RoundTrip
/-!
# The formats of the tools

What three of the tools write, as relations between findings and JSON values: the fields that are read, in any order and
among others.  An output in its tool's format is read as one violation for each finding, in their order
(`Findings.read_eq`), whatever the layout and the spelling.
-/

namespace LintGloss

open Json (Given IsRecord boundedNat? optional? text?)

/-- A line or a column such as a tool can write. -/
abbrev Coordinate := { n : Nat // n ≤ 4294967295 }

def Coordinate.toJson (c : Coordinate) : Json := .nat c.val

/-- The code of a finding: that of its rule, unless the rule is left out, null or empty. -/
def Json.Given.code (fallback : String) : Given String → String
  | value code => if code = "" then fallback else code
  | _ => fallback

/-! ## Fields -/

namespace Json

theorem boundedNat?_toJson (c : Coordinate) :
    boundedNat? Violation.greatestCoordinate (some c.toJson) = some c.val := by
  have hle : (c.val : Int) ≤ (Violation.greatestCoordinate : Nat) := Int.ofNat_le.2 c.property
  rw [Coordinate.toJson, nat, boundedNat?, if_pos ⟨Int.natCast_nonneg _, hle⟩, Int.toNat_natCast]

theorem optional?_text (name : String) (g : Given String) :
    optional? text? (lastOf? name (g.members name .str)) = some g.toOption := by
  have h : optional? text? (lastOf? name (g.members name .str)) = some (g.toOption.map id) :=
    Given.optional?_members name fun s _ => ⟨nofun, rfl⟩
  rwa [Option.map_id] at h

theorem optional?_coordinate (name : String) (g : Given Coordinate) :
    optional? (boundedNat? Violation.greatestCoordinate) (lastOf? name (g.members name Coordinate.toJson)) =
      some (g.toOption.map Subtype.val) :=
  Given.optional?_members name fun c _ => ⟨nofun, boundedNat?_toJson c⟩

theorem Given.code_eq (fallback : String) (g : Given String) :
    (if g.toOption.getD "" = "" then fallback else g.toOption.getD "") = g.code fallback := by
  cases g with
  | value s => rfl
  | _ => exact if_pos rfl

end Json

/-! ## Values without many levels -/

namespace Json

structure IsFlat (d : Nat) (j : Json) : Prop where
  plain : j.IsPlain
  depth_le : j.depth ≤ d

namespace IsFlat

variable {d : Nat}

theorem null (d : Nat) : IsFlat d .null := ⟨isPlain_null, Nat.zero_le d⟩

theorem str (s : String) (d : Nat) : IsFlat d (.str s) := ⟨isPlain_str s, Nat.zero_le d⟩

theorem arr {items : List Json} (h : ∀ j ∈ items, IsFlat d j) : IsFlat (d + 1) (.arr items) := by
  refine ⟨isPlain_arr.2 fun j hj => (h j hj).plain, ?_⟩
  rw [depth, Nat.add_le_add_iff_right, depthOfItems_le_iff]
  exact fun j hj => (h j hj).depth_le

theorem obj {members : List (String × Json)} (h : ∀ m ∈ members, IsFlat d m.2) : IsFlat (d + 1) (.obj members) := by
  refine ⟨isPlain_obj.2 fun m hm => (h m hm).plain, ?_⟩
  rw [depth, Nat.add_le_add_iff_right, depthOfMembers_le_iff]
  exact fun m hm => (h m hm).depth_le

end IsFlat

theorem Given.isFlat_members {α : Type} {d : Nat} {write : α → Json} (hwrite : ∀ a, (write a).IsFlat d) (name : String)
    (g : Given α) : ∀ m ∈ g.members name write, m.2.IsFlat d := by
  cases g with
  | missing => exact List.forall_mem_nil _
  | null => exact List.forall_mem_singleton.2 (.null d)
  | value a => exact List.forall_mem_singleton.2 (hwrite a)

end Json

theorem Coordinate.isFlat_toJson (c : Coordinate) (d : Nat) : c.toJson.IsFlat d := by
  have hlimit : c.val < Json.natLimit := Nat.lt_of_le_of_lt c.property (by decide)
  exact ⟨Json.isPlain_nat.2 hlimit, Nat.zero_le d⟩

theorem forall₂_map_of_forall {α β : Type} {R : α → β → Prop} {f : α → β} (h : ∀ a, R a (f a)) (as : List α) :
    List.Forall₂ R as (as.map f) :=
  List.forall₂_map_right_iff.2 (List.forall₂_same.2 fun a _ => h a)

theorem flatMap_eq_flatMap_of_forall₂ {α β γ : Type} {R : α → β → Prop} {read : β → List γ} {value : α → List γ}
    (hread : ∀ a b, R a b → read b = value a) : ∀ {as : List α} {bs : List β}, List.Forall₂ R as bs →
    bs.flatMap read = as.flatMap value
  | [], [], .nil => rfl
  | a :: as, b :: bs, .cons hab h => by
    rw [List.flatMap_cons, hread a b hab, flatMap_eq_flatMap_of_forall₂ hread h, List.flatMap_cons]

theorem filterMap_eq_map_of_forall₂ {α β γ : Type} {R : α → β → Prop} {read : β → Option γ} {value : α → γ}
    (hread : ∀ a b, R a b → read b = some (value a)) {as : List α} {bs : List β} (h : List.Forall₂ R as bs) :
    bs.filterMap read = as.map value := by
  rw [Tool.filterMap_eq_flatMap, List.map_eq_flatMap]
  exact flatMap_eq_flatMap_of_forall₂ (fun a b hab => by rw [hread a b hab]; rfl) h

/-! ## Ruff -/

namespace Diagnostic.Ruff

structure Finding where
  rule : Given String
  file : String
  row : Coordinate
  column : Coordinate
  message : String

namespace Finding

def placeFields (f : Finding) : List (String × Json) := [("row", f.row.toJson), ("column", f.column.toJson)]

def fields (f : Finding) (place : Json) : List (String × Json) :=
  f.rule.members "code" .str ++ [("filename", .str f.file), ("location", place), ("message", .str f.message)]

def IsWrittenAs (f : Finding) (j : Json) : Prop :=
  ∃ place, IsRecord locationShape f.placeFields place ∧ IsRecord shape (f.fields place) j

def violation (f : Finding) : Violation :=
  ⟨.ruff, f.file, max f.row 1, max f.column 1, f.rule.code "ruff-error", Text.trimmed f.message⟩

def toJson (f : Finding) : Json := .obj (f.fields (.obj f.placeFields))

theorem isWrittenAs_toJson (f : Finding) : f.IsWrittenAs f.toJson :=
  ⟨.obj f.placeFields, Json.isRecord_obj _ _, Json.isRecord_obj _ _⟩

theorem isFlat_toJson (f : Finding) : f.toJson.IsFlat 2 := by
  have hplace : (Json.obj f.placeFields).IsFlat 1 :=
    .obj (List.forall_mem_cons.2 ⟨f.row.isFlat_toJson 0, List.forall_mem_singleton.2 (f.column.isFlat_toJson 0)⟩)
  refine .obj (List.forall_mem_append.2 ⟨Given.isFlat_members (fun s => .str s 1) _ _, ?_⟩)
  exact List.forall_mem_cons.2 ⟨.str _ 1, List.forall_mem_cons.2 ⟨hplace, List.forall_mem_singleton.2 (.str _ 1)⟩⟩

theorem location?_eq {f : Finding} {place : Json} (h : IsRecord locationShape f.placeFields place) :
    location? place = some (f.row.val, f.column.val) := by
  have hfield := h.member? (by simp [placeFields])
  have hrow : place.member? "row" = some f.row.toJson := hfield ⟨"row", false⟩ (by decide)
  have hcolumn : place.member? "column" = some f.column.toJson := hfield ⟨"column", false⟩ (by decide)
  simp only [location?, h.record?, hrow, hcolumn, Json.boundedNat?_toJson, bind, Option.bind_some]

theorem violation?_eq {f : Finding} {j : Json} (h : f.IsWrittenAs j) : violation? j = some f.violation := by
  obtain ⟨place, hplace, hj⟩ := h
  have hfield := hj.member? (by cases hrule : f.rule <;> simp [fields, hrule, Given.members])
  have hcode : j.member? "code" = lastOf? "code" (f.rule.members "code" .str) := by
    rw [hfield ⟨"code", true⟩ (by decide), fields, lastOf?_append]
    simp [lastOf?]
  have hfile : j.member? "filename" = some (.str f.file) := by
    rw [hfield ⟨"filename", false⟩ (by decide), fields, lastOf?_append]
    simp [lastOf?]
  have hlocation : j.member? "location" = some place := by
    rw [hfield ⟨"location", false⟩ (by decide), fields, lastOf?_append]
    simp [lastOf?]
  have hmessage : j.member? "message" = some (.str f.message) := by
    rw [hfield ⟨"message", false⟩ (by decide), fields, lastOf?_append]
    simp [lastOf?]
  simp only [violation?, hj.record?, hcode, hfile, hlocation, hmessage, Json.optional?_text, location?_eq hplace, text?, bind,
    Option.bind_some, Given.code_eq]
  rfl

end Finding

end Diagnostic.Ruff

/-! ## Pyright -/

namespace Diagnostic.Pyright

structure Finding where
  file : String
  severity : String
  message : String
  /-- The line and the character where the range starts. -/
  start : Given (Coordinate × Coordinate)
  rule : Given String

def placeFields (place : Coordinate × Coordinate) : List (String × Json) :=
  [("line", place.1.toJson), ("character", place.2.toJson)]

def IsRangeFrom (place : Coordinate × Coordinate) (range : Json) : Prop :=
  ∃ start, IsRecord positionShape (placeFields place) start ∧ IsRecord rangeShape [("start", start)] range

namespace Finding

def fields (f : Finding) (range : Json) : List (String × Json) :=
  [("file", .str f.file), ("severity", .str f.severity), ("message", .str f.message)] ++
    (f.start.members "range" (fun _ => range) ++ f.rule.members "rule" .str)

def IsWrittenAs (f : Finding) (j : Json) : Prop :=
  ∃ range, (∀ place, f.start = .value place → IsRangeFrom place range) ∧ IsRecord shape (f.fields range) j

def range (f : Finding) : Json :=
  match f.start with
  | .value place => .obj [("start", .obj (placeFields place))]
  | _ => .null

def toJson (f : Finding) : Json := .obj (f.fields f.range)

theorem isWrittenAs_toJson (f : Finding) : f.IsWrittenAs f.toJson := by
  refine ⟨f.range, fun place hplace => ?_, Json.isRecord_obj _ _⟩
  rw [range, hplace]
  exact ⟨.obj (placeFields place), Json.isRecord_obj _ _, Json.isRecord_obj _ _⟩

theorem isFlat_toJson (f : Finding) : f.toJson.IsFlat 3 := by
  have hrange : f.range.IsFlat 2 := by
    unfold range
    split
    · rename_i place _
      have hplace : (Json.obj (placeFields place)).IsFlat 1 :=
        .obj (List.forall_mem_cons.2 ⟨place.1.isFlat_toJson 0, List.forall_mem_singleton.2 (place.2.isFlat_toJson 0)⟩)
      exact .obj (List.forall_mem_singleton.2 hplace)
    · exact .null 2
  refine .obj (List.forall_mem_append.2 ⟨?_, List.forall_mem_append.2 ⟨?_, ?_⟩⟩)
  · exact List.forall_mem_cons.2 ⟨.str _ 2, List.forall_mem_cons.2 ⟨.str _ 2, List.forall_mem_singleton.2 (.str _ 2)⟩⟩
  · exact Given.isFlat_members (fun _ => hrange) _ _
  · exact Given.isFlat_members (fun s => .str s 2) _ _

/-- The place of a finding, counted from one. -/
def place (f : Finding) : Nat × Nat :=
  match f.start with
  | .value (line, character) => (min (line + 1) 4294967295, min (character + 1) 4294967295)
  | _ => (1, 1)

def violation (f : Finding) : Violation :=
  ⟨.pyright, f.file, f.place.1, f.place.2, f.rule.code ("pyright-" ++ f.severity), Text.trimmed f.message⟩

end Finding

theorem start?_eq {place : Coordinate × Coordinate} {range : Json} (h : IsRangeFrom place range) :
    start? range = some (fromOne place.1, fromOne place.2) := by
  obtain ⟨start, hstart, hrange⟩ := h
  have hfield := hstart.member? (by simp [placeFields])
  have hat : range.member? "start" = some start := hrange.member? (by simp) ⟨"start", false⟩ (by decide)
  have hline : start.member? "line" = some place.1.toJson := hfield ⟨"line", false⟩ (by decide)
  have hcharacter : start.member? "character" = some place.2.toJson := hfield ⟨"character", false⟩ (by decide)
  simp only [start?, position?, hrange.record?, hat, hstart.record?, hline, hcharacter, Json.boundedNat?_toJson, bind,
    Option.bind_some]

namespace Finding

theorem place_eq (f : Finding) :
    f.place = (f.start.toOption.map fun p => (fromOne p.1, fromOne p.2)).getD (1, 1) := by
  unfold place
  cases f.start <;> rfl

/-- A place that is counted from one is not raised further. -/
theorem one_le_place (f : Finding) : 1 ≤ f.place.1 ∧ 1 ≤ f.place.2 := by
  unfold place
  split
  · constructor <;> dsimp only <;> omega
  · decide

theorem violation_eq (f : Finding) :
    f.violation = .ofParts .pyright f.file f.place.1 f.place.2 (f.rule.code ("pyright-" ++ f.severity)) f.message := by
  obtain ⟨hline, hcolumn⟩ := f.one_le_place
  rw [violation, Violation.ofParts, Nat.max_eq_left hline, Nat.max_eq_left hcolumn]

theorem violation?_eq {f : Finding} {j : Json} (h : f.IsWrittenAs j) : violation? j = some f.violation := by
  obtain ⟨range, hrange, hj⟩ := h
  have hfield := hj.member? (by
    cases hstart : f.start <;> cases hrule : f.rule <;> simp [fields, hstart, hrule, Given.members])
  have hfile : j.member? "file" = some (.str f.file) := by
    rw [hfield ⟨"file", false⟩ (by decide), fields, lastOf?_append, lastOf?_append]
    simp [lastOf?, Given.lastOf?_members_of_ne]
  have hseverity : j.member? "severity" = some (.str f.severity) := by
    rw [hfield ⟨"severity", false⟩ (by decide), fields, lastOf?_append, lastOf?_append]
    simp [lastOf?, Given.lastOf?_members_of_ne]
  have hmessage : j.member? "message" = some (.str f.message) := by
    rw [hfield ⟨"message", false⟩ (by decide), fields, lastOf?_append, lastOf?_append]
    simp [lastOf?, Given.lastOf?_members_of_ne]
  have hat : j.member? "range" = lastOf? "range" (f.start.members "range" fun _ => range) := by
    rw [hfield ⟨"range", true⟩ (by decide), fields, lastOf?_append, lastOf?_append]
    simp [lastOf?, Given.lastOf?_members_of_ne]
  have hrule : j.member? "rule" = lastOf? "rule" (f.rule.members "rule" .str) := by
    rw [hfield ⟨"rule", true⟩ (by decide), fields, lastOf?_append, lastOf?_append]
    simp [lastOf?, Given.lastOf?_members_of_ne]
  have hstart : optional? (fun x => x.bind start?) (j.member? "range") =
      some (f.start.toOption.map fun p => (fromOne p.1, fromOne p.2)) := by
    rw [hat]
    refine Given.optional?_members "range" fun place hplace => ⟨?_, start?_eq (hrange place hplace)⟩
    obtain ⟨start, -, hrecord⟩ := hrange place hplace
    exact hrecord.ne_null
  simp only [violation?, hj.record?, hfile, hseverity, hmessage, hstart, hrule, Json.optional?_text, text?, bind,
    Option.bind_some, Given.code_eq, violation_eq, place_eq]
  rfl

end Finding

end Diagnostic.Pyright

/-! ## Eslint -/

namespace Diagnostic.Eslint

structure Finding where
  rule : Given String
  message : String
  line : Given Coordinate
  column : Given Coordinate

namespace Finding

def fields (f : Finding) : List (String × Json) :=
  ("message", .str f.message) :: (f.rule.members "ruleId" .str ++
    (f.line.members "line" Coordinate.toJson ++ f.column.members "column" Coordinate.toJson))

def IsWrittenAs (f : Finding) (j : Json) : Prop := IsRecord shape f.fields j

def toJson (f : Finding) : Json := .obj f.fields

theorem isWrittenAs_toJson (f : Finding) : f.IsWrittenAs f.toJson := Json.isRecord_obj _ _

theorem isFlat_toJson (f : Finding) : f.toJson.IsFlat 1 := by
  refine .obj (List.forall_mem_cons.2 ⟨.str _ 0, List.forall_mem_append.2 ⟨?_, List.forall_mem_append.2 ⟨?_, ?_⟩⟩⟩)
  · exact Given.isFlat_members (fun s => .str s 0) _ _
  · exact Given.isFlat_members (fun c => c.isFlat_toJson 0) _ _
  · exact Given.isFlat_members (fun c => c.isFlat_toJson 0) _ _

def coordinate : Given Coordinate → Nat
  | .value n => max n 1
  | _ => 1

def violation (file : String) (f : Finding) : Violation :=
  ⟨.eslint, file, coordinate f.line, coordinate f.column, f.rule.code "eslint-error", Text.trimmed f.message⟩

theorem coordinate_eq (g : Given Coordinate) : coordinate g = max ((g.toOption.map Subtype.val).getD 1) 1 := by
  cases g <;> rfl

theorem violation?_eq {f : Finding} {j : Json} (file : String) (h : f.IsWrittenAs j) :
    violation? file j = some (f.violation file) := by
  have hfield := h.member? (by
    cases hrule : f.rule <;> cases hline : f.line <;> cases hcolumn : f.column <;>
      simp [fields, hrule, hline, hcolumn, Given.members])
  have hrule : j.member? "ruleId" = lastOf? "ruleId" (f.rule.members "ruleId" .str) := by
    rw [hfield ⟨"ruleId", false⟩ (by decide), fields, lastOf?, lastOf?_append, lastOf?_append]
    simp [Given.lastOf?_members_of_ne]
  have hmessage : j.member? "message" = some (.str f.message) := by
    rw [hfield ⟨"message", false⟩ (by decide), fields, lastOf?, lastOf?_append, lastOf?_append]
    simp [Given.lastOf?_members_of_ne]
  have hline : j.member? "line" = lastOf? "line" (f.line.members "line" Coordinate.toJson) := by
    rw [hfield ⟨"line", true⟩ (by decide), fields, lastOf?, lastOf?_append, lastOf?_append]
    simp [Given.lastOf?_members_of_ne]
  have hcolumn : j.member? "column" = lastOf? "column" (f.column.members "column" Coordinate.toJson) := by
    rw [hfield ⟨"column", true⟩ (by decide), fields, lastOf?, lastOf?_append, lastOf?_append]
    simp [Given.lastOf?_members_of_ne]
  simp only [violation?, h.record?, hrule, hmessage, hline, hcolumn, Json.optional?_text, Json.optional?_coordinate, text?,
    bind, Option.bind_some, Given.code_eq, violation, coordinate_eq]
  rfl

end Finding

structure FileFindings where
  path : String
  findings : List Finding

namespace FileFindings

def fields (f : FileFindings) (messages : List Json) : List (String × Json) :=
  [("filePath", .str f.path), ("messages", .arr messages)]

def IsWrittenAs (f : FileFindings) (j : Json) : Prop :=
  ∃ messages, List.Forall₂ Finding.IsWrittenAs f.findings messages ∧ IsRecord fileShape (f.fields messages) j

def toJson (f : FileFindings) : Json := .obj (f.fields (f.findings.map Finding.toJson))

theorem isWrittenAs_toJson (f : FileFindings) : f.IsWrittenAs f.toJson :=
  ⟨_, forall₂_map_of_forall Finding.isWrittenAs_toJson f.findings, Json.isRecord_obj _ _⟩

theorem isFlat_toJson (f : FileFindings) : f.toJson.IsFlat 3 := by
  have hmessages : (Json.arr (f.findings.map Finding.toJson)).IsFlat 2 :=
    .arr (List.forall_mem_map.2 fun f _ => f.isFlat_toJson)
  exact .obj (List.forall_mem_cons.2 ⟨.str _ 2, List.forall_mem_singleton.2 hmessages⟩)

def violations (f : FileFindings) : List Violation := f.findings.map (Finding.violation f.path)

theorem fileViolations_eq {f : FileFindings} {j : Json} (h : f.IsWrittenAs j) : fileViolations j = f.violations := by
  obtain ⟨messages, hmessages, hj⟩ := h
  have hfield := hj.member? (by simp [fields])
  have hpath : j.member? "filePath" = some (.str f.path) := hfield ⟨"filePath", false⟩ (by decide)
  have hitems : j.member? "messages" = some (.arr messages) := hfield ⟨"messages", false⟩ (by decide)
  have hfile : file? j = some (f.path, messages) := by
    simp only [file?, hj.record?, hpath, hitems, text?, bind, Option.bind_some]
  rw [fileViolations, hfile, violations]
  exact filterMap_eq_map_of_forall₂ (fun _ _ h => Finding.violation?_eq f.path h) hmessages

end FileFindings

end Diagnostic.Eslint

/-! ## Outputs -/

open Diagnostic

inductive Findings
  | ruff (findings : List Ruff.Finding)
  | pyright (findings : List Pyright.Finding)
  | eslint (files : List Eslint.FileFindings)

namespace Findings

def tool : Findings → Tool
  | ruff _ => .ruff
  | pyright _ => .pyright
  | eslint _ => .eslint

/-- Whether a value is what the tool writes for its findings. -/
def IsWrittenAs : Findings → Json → Prop
  | ruff findings, j => ∃ items, List.Forall₂ Ruff.Finding.IsWrittenAs findings items ∧ j = .arr items
  | pyright findings, j => ∃ items, List.Forall₂ Pyright.Finding.IsWrittenAs findings items ∧
      IsRecord [⟨"generalDiagnostics", false⟩] [("generalDiagnostics", .arr items)] j
  | eslint files, j => ∃ items, List.Forall₂ Eslint.FileFindings.IsWrittenAs files items ∧ j = .arr items

/-- One violation for each finding, in their order. -/
def violations : Findings → List Violation
  | ruff findings => findings.map Ruff.Finding.violation
  | pyright findings => findings.map Pyright.Finding.violation
  | eslint files => files.flatMap Eslint.FileFindings.violations

/-- **A tool's format is read as what it was written for**, in any layout and any spelling. -/
theorem read_of_isTextOf {f : Findings} {j : Json} {output : String} (hj : f.IsWrittenAs j)
    (hd : j.depth ≤ Json.Reader.depthLimit) (houtput : j.IsTextOf output) : f.tool.read output = f.violations := by
  have hparse := houtput.parse?_trim hd
  cases f with
  | ruff findings =>
    obtain ⟨items, hitems, rfl⟩ := hj
    simp only [tool, Tool.read, Ruff.read, hparse]
    exact filterMap_eq_map_of_forall₂ (fun _ _ h => Ruff.Finding.violation?_eq h) hitems
  | pyright findings =>
    obtain ⟨items, hitems, hrecord⟩ := hj
    have hmember : j.member? Pyright.itemsKey = some (.arr items) :=
      hrecord.member? (by simp) ⟨"generalDiagnostics", false⟩ List.mem_cons_self
    simp only [tool, Tool.read, Pyright.read, hparse, Option.bind_some, hmember]
    exact filterMap_eq_map_of_forall₂ (fun _ _ h => Pyright.Finding.violation?_eq h) hitems
  | eslint files =>
    obtain ⟨items, hitems, rfl⟩ := hj
    simp only [tool, Tool.read, Eslint.read, hparse]
    exact flatMap_eq_flatMap_of_forall₂ (fun _ _ h => Eslint.FileFindings.fileViolations_eq h) hitems

def toJson : Findings → Json
  | ruff findings => .arr (findings.map Ruff.Finding.toJson)
  | pyright findings => .obj [("generalDiagnostics", .arr (findings.map Pyright.Finding.toJson))]
  | eslint files => .arr (files.map Eslint.FileFindings.toJson)

theorem isWrittenAs_toJson (f : Findings) : f.IsWrittenAs f.toJson := by
  cases f with
  | ruff findings => exact ⟨_, forall₂_map_of_forall Ruff.Finding.isWrittenAs_toJson findings, rfl⟩
  | pyright findings =>
    exact ⟨_, forall₂_map_of_forall Pyright.Finding.isWrittenAs_toJson findings, Json.isRecord_obj _ _⟩
  | eslint files => exact ⟨_, forall₂_map_of_forall Eslint.FileFindings.isWrittenAs_toJson files, rfl⟩

theorem isFlat_toJson (f : Findings) : f.toJson.IsFlat Json.Reader.depthLimit := by
  have hflat : f.toJson.IsFlat 5 := by
    cases f with
    | ruff findings =>
      have h : (Json.arr (findings.map Ruff.Finding.toJson)).IsFlat 3 :=
        .arr (List.forall_mem_map.2 fun f _ => f.isFlat_toJson)
      exact ⟨h.plain, Nat.le_trans h.depth_le (by decide)⟩
    | pyright findings =>
      have h : (Json.arr (findings.map Pyright.Finding.toJson)).IsFlat 4 :=
        .arr (List.forall_mem_map.2 fun f _ => f.isFlat_toJson)
      exact .obj (List.forall_mem_singleton.2 h)
    | eslint files =>
      have h : (Json.arr (files.map Eslint.FileFindings.toJson)).IsFlat 4 :=
        .arr (List.forall_mem_map.2 fun f _ => f.isFlat_toJson)
      exact ⟨h.plain, Nat.le_trans h.depth_le (by decide)⟩
  exact ⟨hflat.plain, Nat.le_trans hflat.depth_le (by decide)⟩

/-- How the outputs of a tool with some findings are read. -/
structure ReadBack (f : Findings) : Prop where
  /-- In any spelling, with spaces between the tokens and blanks around them. -/
  text : ∀ j output, f.IsWrittenAs j → j.depth ≤ Json.Reader.depthLimit → j.IsTextOf output →
    f.tool.read output = f.violations
  layout : ∀ j l before after, f.IsWrittenAs j → j.depth ≤ Json.Reader.depthLimit → j.IsReadable →
    Text.isAllBlank before = true → Text.isAllBlank after = true →
    f.tool.read (before ++ j.render l ++ after) = f.violations
  /-- With no other fields than those that are read. -/
  alone : ∀ l, f.tool.read (f.toJson.render l) = f.violations

/-- **What a tool writes is read as its findings.** -/
theorem read_back (f : Findings) : f.ReadBack where
  text := fun j output hj hd houtput => read_of_isTextOf hj hd houtput
  layout := fun j l before after hj hd hreadable hbefore hafter =>
    read_of_isTextOf hj hd (hreadable.isTextOf l hbefore hafter)
  alone := fun l => by
    have htext : f.toJson.IsTextOf ("" ++ f.toJson.render l ++ "") :=
      f.isFlat_toJson.plain.isReadable.isTextOf l rfl rfl
    rw [String.empty_append, String.append_empty] at htext
    exact read_of_isTextOf f.isWrittenAs_toJson f.isFlat_toJson.depth_le htext

/-- A syntax error at row zero, with its fields in another order and among others. -/
theorem read_back_ruff :
    let f : Findings := .ruff [⟨.null, "b.py", ⟨0, by decide⟩, ⟨3, by decide⟩, " bad "⟩]
    let place := Json.obj [("column", .int 3), ("row", .int 0)]
    let j := Json.arr [.obj [("cell", .null), ("fix", .real ⟨false, 15, -1⟩), ("code", .null), ("filename", .str "b.py"),
      ("location", place), ("message", .str " bad ")]]
    f.IsWrittenAs j ∧ j.depth ≤ Json.Reader.depthLimit ∧ j.IsReadable ∧
      f.tool.read ("\u00a0\n" ++ j.render .pretty ++ "\n") = [⟨.ruff, "b.py", 1, 3, "ruff-error", "bad"⟩] := by
  intro f place j
  have hplace : IsRecord Ruff.locationShape [("row", .int 0), ("column", .int 3)] place :=
    ⟨_, [], rfl, List.Perm.swap _ _ _, List.forall_mem_nil _⟩
  have hj : f.IsWrittenAs j := by
    let others : List (String × Json) := [("cell", .null), ("fix", .real ⟨false, 15, -1⟩)]
    have hothers : ∀ m ∈ others, ∀ f ∈ Ruff.shape, f.name ≠ m.1 := by decide
    exact ⟨_, .cons ⟨place, hplace, others ++ _, others, rfl, List.perm_append_comm, hothers⟩ .nil, rfl⟩
  have hreadable : j.IsReadable := by decide +kernel
  refine ⟨hj, by decide, hreadable, ?_⟩
  rw [f.read_back.layout j .pretty "\u00a0\n" "\n" hj (by decide) hreadable (by decide) (by decide)]
  decide

end Findings

end LintGloss
