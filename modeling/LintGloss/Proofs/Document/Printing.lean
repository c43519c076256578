import LintGloss.Console
import LintGloss.Proofs.Document.Answers
import LintGloss.Proofs.Json.Compact
import LintGloss.Proofs.Json.RoundTrip
import Mathlib.Data.List.Forall2
/-!
# Printing without a loss

A document is printed compact or over several lines, with its members in their own order or sorted.  From each of these
texts the same value is read, and from the value the document (`IsWrittenAs`).  Every command prints a document in one
of these ways, and the compact one is a single line (`prints_losslessly`).
-/

namespace LintGloss

/-! ## What a value shows of a report -/

/-- The six fields stand beside the rule, which is null for none. -/
structure Glossed.IsShownBy (g : Glossed) (j : Json) : Prop where
  fields : ∀ m ∈ g.violation.members, j.member? m.1 = some m.2
  semantic_eq_null_iff : j.member? "semantic" = some .null ↔ g.semantic = none

structure LinterSummary.IsShownBy (s : LinterSummary) (j : Json) : Prop where
  isSome_error : (j.member? "error").isSome = s.error.isSome

structure Report.IsShownBy (r : Report) (j : Json) : Prop where
  violations : ∃ items, j.member? "violations" = some (.arr items) ∧
    List.Forall₂ Glossed.IsShownBy r.violations items
  results : ∃ linters items, j.member? "linters" = some linters ∧ linters.member? "results" = some (.arr items) ∧
    List.Forall₂ LinterSummary.IsShownBy r.results items

theorem Glossed.isShownBy_toJson (g : Glossed) : g.IsShownBy g.toJson := by
  obtain ⟨v, semantic⟩ := g
  constructor
  · intro m hm
    simp only [Violation.members, List.mem_cons, List.not_mem_nil, or_false] at hm
    rcases hm with rfl | rfl | rfl | rfl | rfl | rfl <;> simp [toJson, Violation.members, Json.member?, lastOf?]
  · cases semantic <;>
      simp [toJson, Violation.members, Json.member?, lastOf?, Json.ofOption, Rule.toJson]

theorem LinterSummary.isShownBy_toJson (s : LinterSummary) : s.IsShownBy s.toJson := by
  obtain ⟨name, status, count, error⟩ := s
  constructor
  cases error <;> simp [toJson, Json.member?, lastOf?]

theorem Report.isShownBy_toJson (r : Report) : r.IsShownBy r.toJson := by
  let linters : Json := .obj [("detected", .strings r.detected), ("results", .arr (r.results.map (·.toJson)))]
  have hviolations : List.Forall₂ Glossed.IsShownBy r.violations (r.violations.map (·.toJson)) :=
    List.forall₂_map_right_iff.2 (List.forall₂_same.2 fun g _ => g.isShownBy_toJson)
  have hresults : List.Forall₂ LinterSummary.IsShownBy r.results (r.results.map (·.toJson)) :=
    List.forall₂_map_right_iff.2 (List.forall₂_same.2 fun s _ => s.isShownBy_toJson)
  refine ⟨⟨_, ?_, hviolations⟩, ⟨linters, _, ?_, ?_, hresults⟩⟩
  · simp [toJson, Json.member?, lastOf?]
  · simp [toJson, Json.member?, lastOf?, linters]
  · simp [Json.member?, lastOf?, linters]

/-- No field of a violation has members that could be sorted. -/
theorem Violation.sortKeys_of_mem_members {v : Violation} {m : String × Json} (hm : m ∈ v.members) :
    m.2.sortKeys = m.2 := by
  simp only [members, List.mem_cons, List.not_mem_nil, or_false] at hm
  rcases hm with rfl | rfl | rfl | rfl | rfl | rfl <;> rfl

theorem Glossed.IsShownBy.sortKeys {g : Glossed} {j : Json} (h : g.IsShownBy j) : g.IsShownBy j.sortKeys := by
  constructor
  · intro m hm
    rw [Json.member?_sortKeys, h.fields m hm, Option.map_some, Violation.sortKeys_of_mem_members hm]
  · rw [Json.member?_sortKeys, ← h.semantic_eq_null_iff]
    rcases j.member? "semantic" with _ | (_ | _ | _ | _ | _ | _ | _) <;> simp [Json.sortKeys]

theorem LinterSummary.IsShownBy.sortKeys {s : LinterSummary} {j : Json} (h : s.IsShownBy j) :
    s.IsShownBy j.sortKeys := by
  constructor
  rw [Json.member?_sortKeys, Option.isSome_map, h.isSome_error]

theorem Report.IsShownBy.sortKeys {r : Report} {j : Json} (h : r.IsShownBy j) : r.IsShownBy j.sortKeys := by
  obtain ⟨items, hitems, hviolations⟩ := h.violations
  obtain ⟨linters, ls, hlinters, hls, hresults⟩ := h.results
  refine ⟨⟨items.map Json.sortKeys, ?_, ?_⟩, ⟨linters.sortKeys, ls.map Json.sortKeys, ?_, ?_, ?_⟩⟩
  · rw [Json.member?_sortKeys, hitems, Option.map_some, Json.sortKeys, Json.sortItems_eq_map]
  · exact List.forall₂_map_right_iff.2 (hviolations.imp fun _ _ hg => hg.sortKeys)
  · rw [Json.member?_sortKeys, hlinters, Option.map_some]
  · rw [Json.member?_sortKeys, hls, Option.map_some, Json.sortKeys, Json.sortItems_eq_map]
  · exact List.forall₂_map_right_iff.2 (hresults.imp fun _ _ hs => hs.sortKeys)

/-! ## What a machine can hold -/

/-- Coordinates and counts of 64 bits, and tools in the order of their names. -/
structure Report.Fits (r : Report) : Prop where
  violations : ∀ g ∈ r.violations, g.violation.line < Json.natLimit ∧ g.violation.column < Json.natLimit
  results : ∀ s ∈ r.results, s.violationCount < Json.natLimit
  total : r.summary.total < Json.natLimit
  withRule : r.summary.withRule < Json.natLimit
  withoutRule : r.summary.withoutRule < Json.natLimit
  files : r.summary.files < Json.natLimit
  byTool : ∀ e ∈ r.summary.byTool, e.2 < Json.natLimit
  tools : (r.summary.byTool.map (·.1)).Sublist Tool.alphabetic

theorem Glossed.isPlain_toJson {g : Glossed} (hline : g.violation.line < Json.natLimit)
    (hcolumn : g.violation.column < Json.natLimit) : g.toJson.IsPlain := by
  obtain ⟨v, semantic⟩ := g
  cases semantic <;> simp [toJson, Violation.members, Json.ofOption, Rule.toJson, hline, hcolumn]

theorem LinterSummary.isPlain_toJson {s : LinterSummary} (h : s.violationCount < Json.natLimit) :
    s.toJson.IsPlain := by
  obtain ⟨name, status, count, error⟩ := s
  cases error <;> simp [toJson] <;> exact h

theorem Report.isPlain_toJson {r : Report} (h : r.Fits) : r.toJson.IsPlain := by
  have hviolations : ∀ g ∈ r.violations, g.toJson.IsPlain := fun g hg =>
    Glossed.isPlain_toJson (h.violations g hg).1 (h.violations g hg).2
  have hresults : ∀ s ∈ r.results, s.toJson.IsPlain := fun s hs => LinterSummary.isPlain_toJson (h.results s hs)
  have hcounts : ∀ m ∈ r.summary.byTool.map fun e => (e.1.name, Json.nat e.2), m.2.IsPlain :=
    List.forall_mem_map.2 fun e he => Json.isPlain_nat.2 (h.byTool e he)
  have hsummary : r.summary.toJson.IsPlain := by
    simpa [Summary.toJson, h.total, h.withRule, h.withoutRule, h.files] using hcounts
  simpa [toJson, Json.strings, hsummary] using ⟨hviolations, hresults⟩

namespace Document

def Fits : Document → Prop
  | report r => r.Fits
  | valid _ count | listing count _ => count < Json.natLimit
  | _ => True

theorem isPlain_strings (xs : List String) : (Json.strings xs).IsPlain := by simp [Json.strings]

theorem isPlain_toJson {d : Document} (h : d.Fits) : d.toJson.IsPlain := by
  cases d with
  | report r => exact Report.isPlain_toJson h
  | failure | created => simp [toJson, isPlain_strings]
  | valid linters count =>
    have hcount : count < Json.natLimit := h
    simp [toJson, isPlain_strings, hcount]
  | listing count rules =>
    have hcount : count < Json.natLimit := h
    have hrules : ∀ j ∈ rules.map ruleJson, j.IsPlain := List.forall_mem_map.2 fun e _ => by simp [ruleJson]
    simpa [toJson, hcount] using hrules
  | invalid messages => simp [toJson, messageJson]

/-! ## How deep documents are -/

theorem depthOfItems_map_le {α : Type} {f : α → Json} {d : Nat} {l : List α} (h : ∀ a ∈ l, (f a).depth ≤ d) :
    Json.depthOfItems (l.map f) ≤ d :=
  Json.depthOfItems_le_iff.2 (List.forall_mem_map.2 h)

theorem depth_strings_le (xs : List String) : (Json.strings xs).depth ≤ 1 := by
  have hitems : Json.depthOfItems (xs.map Json.str) ≤ 0 := depthOfItems_map_le fun _ _ => Nat.le_refl 0
  rw [Json.strings, Json.depth]
  omega

theorem depth_report_le (r : Report) : r.toJson.depth ≤ 4 := by
  have hviolations : Json.depthOfItems (r.violations.map (·.toJson)) ≤ 2 := by
    refine depthOfItems_map_le fun g _ => ?_
    obtain ⟨v, semantic⟩ := g
    cases semantic <;>
      simp [Glossed.toJson, Violation.members, Json.ofOption, Rule.toJson, Json.depth_nat, Json.depth,
        Json.depthOfMembers]
  have hresults : Json.depthOfItems (r.results.map (·.toJson)) ≤ 1 := by
    refine depthOfItems_map_le fun s _ => ?_
    obtain ⟨name, status, count, error⟩ := s
    cases error <;> simp [LinterSummary.toJson, Json.depth_nat, Json.depth, Json.depthOfMembers]
  have hcounts : Json.depthOfMembers (r.summary.byTool.map fun e => (e.1.name, Json.nat e.2)) ≤ 0 :=
    Json.depthOfMembers_le_iff.2 (List.forall_mem_map.2 fun _ _ => Nat.le_refl 0)
  have hdetected := depth_strings_le r.detected
  simp only [Report.toJson, Summary.toJson, Json.depth_nat, Json.depth, Json.depthOfMembers]
  omega

theorem depth_toJson_le (d : Document) : d.toJson.depth ≤ 4 := by
  cases d with
  | report r => exact depth_report_le r
  | failure => simp [toJson, Json.depth, Json.depthOfMembers]
  | created paths preset nextSteps =>
    have hpaths := depth_strings_le paths
    have hsteps := depth_strings_le nextSteps
    simp only [toJson, Json.depth, Json.depthOfMembers]
    omega
  | valid linters count =>
    have hlinters := depth_strings_le linters
    simp only [toJson, Json.depth_nat, Json.depth, Json.depthOfMembers]
    omega
  | invalid messages =>
    have hmessages : Json.depthOfItems (messages.map messageJson) ≤ 1 :=
      depthOfItems_map_le fun _ _ => by simp [messageJson, Json.depth, Json.depthOfMembers]
    simp only [toJson, Json.depth, Json.depthOfMembers]
    omega
  | listing count rules =>
    have hrules : Json.depthOfItems (rules.map ruleJson) ≤ 1 :=
      depthOfItems_map_le fun _ _ => by simp [ruleJson, Json.depth, Json.depthOfMembers]
    simp only [toJson, Json.depth_nat, Json.depth, Json.depthOfMembers]
    omega

/-! ## Written documents -/

/-- A value that is a document in full: from the text of either layout it is read, from it the document. -/
structure IsWrittenAs (d : Document) (j : Json) : Prop where
  parse?_render : ∀ l, Json.parse? (j.render l).toList = some j
  /-- It is the value of the document but for the order of the members. -/
  sortKeys_eq : j.sortKeys = d.toJson.sortKeys
  ofJson?_eq : ofJson? j = some d
  shown : ∀ r, d = report r → r.IsShownBy j
  squeeze_eq : Json.squeeze (j.render .pretty).toList = (j.render .compact).toList
  /-- No line feed and no other control character is in the compact text. -/
  printable : ∀ c ∈ (j.render .compact).toList, Json.leastPrintable ≤ c.toNat

theorem Fits.inOrder {d : Document} (h : d.Fits) : d.InOrder := by
  cases d with
  | report r => exact h.tools
  | _ => trivial

theorem isWrittenAs_of_ofJson? {d : Document} {j : Json} (hplain : j.IsPlain) (hdepth : j.depth ≤ d.toJson.depth)
    (hsort : j.sortKeys = d.toJson.sortKeys) (hread : ofJson? j = some d)
    (hshown : ∀ r, d = report r → r.IsShownBy j) : d.IsWrittenAs j where
  parse?_render l := by
    have hlimit : j.depth ≤ Json.Reader.depthLimit := Nat.le_trans hdepth (Nat.le_trans (depth_toJson_le d) (by decide))
    rw [Json.render, String.toList_ofList]
    exact Json.parse?_renderAt l 0 hplain hlimit
  sortKeys_eq := hsort
  ofJson?_eq := hread
  shown := hshown
  squeeze_eq := by
    simp only [Json.render, String.toList_ofList]
    exact Json.squeeze_renderAt .pretty 0 _
  printable c hc := by
    rw [Json.render, String.toList_ofList] at hc
    exact Json.le_of_mem_renderAt_compact hc

theorem isWrittenAs_toJson {d : Document} (h : d.Fits) : d.IsWrittenAs d.toJson := by
  refine isWrittenAs_of_ofJson? (isPlain_toJson h) (Nat.le_refl _) rfl (ofJson?_toJson h.inOrder) ?_
  rintro r rfl
  exact r.isShownBy_toJson

theorem isWrittenAs_sortKeys {d : Document} (h : d.Fits) : d.IsWrittenAs d.toJson.sortKeys := by
  have hread : ofJson? d.toJson.sortKeys = some d := by rw [ofJson?_sortKeys, ofJson?_toJson h.inOrder]
  have hplain : d.toJson.sortKeys.IsPlain := (isPlain_toJson h).sortKeys
  refine isWrittenAs_of_ofJson? hplain (Json.depth_sortKeys_le _) (Json.sortKeys_sortKeys _) hread ?_
  rintro r rfl
  exact r.isShownBy_toJson.sortKeys

end Document

/-! ## What is printed -/

/-- The layout that a command asks for. -/
def Command.layout (c : Command) : Json.Layout := if c.pretty then .pretty else .compact

/-- The value that a command prints. -/
def Command.printed : Except Failure Reply → Json
  | .ok r => r.body
  | .error f => f.toJson

theorem Command.text_pretty (c : Command) (r : Except Failure Reply) :
    text c.pretty r = (printed r).render c.layout := by cases r <;> rfl

/-- A reply is sorted, and a failure is not. -/
theorem Document.Answers.printed_eq {d : Document} {r : Except Failure Reply} (h : d.Answers r) :
    Command.printed r = d.toJson.sortKeys ∨ Command.printed r = d.toJson := by
  cases r with
  | ok r => exact .inl h
  | error f =>
    have hd : d = ofFailure f := h
    exact .inr (by rw [hd, toJson_ofFailure]; rfl)

theorem Document.Answers.isWrittenAs {d : Document} {r : Except Failure Reply} (h : d.Answers r) (hfits : d.Fits) :
    d.IsWrittenAs (Command.printed r) := by
  rcases h.printed_eq with hprinted | hprinted
  · rw [hprinted]
    exact isWrittenAs_sortKeys hfits
  · rw [hprinted]
    exact isWrittenAs_toJson hfits

/-- A text without control characters that is ended by a line feed is one line. -/
theorem lines_lineFeed {s : List Char} (h : ∀ c ∈ s, Json.leastPrintable ≤ c.toNat) :
    Text.lines (s ++ ['\n']) = [s] := by
  induction s with
  | nil => rfl
  | cons c rest ih =>
    have hc : Json.leastPrintable ≤ c.toNat := h c (List.mem_cons_self ..)
    have hfeed : c ≠ '\n' := by rintro rfl; exact absurd hc (by decide)
    have hreturn : c ≠ '\r' := by rintro rfl; exact absurd hc (by decide)
    rw [List.cons_append, Text.lines, ih fun d hd => h d (List.mem_cons_of_mem c hd)]
    · exact hfeed
    · intro tail hcr
      exact absurd hcr hreturn

/-- **Nothing is lost by printing.**  Each document is read back from both layouts, with its members sorted or not; and
every command prints a document, on one line unless it is asked for more. -/
theorem Document.prints_losslessly :
    (∀ d : Document, d.Fits → d.IsWrittenAs d.toJson ∧ d.IsWrittenAs d.toJson.sortKeys) ∧
      ∀ fs cwd attempt environment words line, CommandLine.parse environment words = .ok line →
        let r := (line.command.execute fs cwd attempt).1
        let out := (Console.run fs cwd attempt environment words).1.stdout
        (∃ d : Document, d.Answers r ∧ (d.Fits → d.IsWrittenAs (Command.printed r))) ∧
          out = (Command.printed r).render line.command.layout ++ "\n" ∧
          (line.command.pretty = false → Text.lines out.toList = [((Command.printed r).render .compact).toList]) := by
  refine ⟨fun d h => ⟨isWrittenAs_toJson h, isWrittenAs_sortKeys h⟩, ?_⟩
  intro fs cwd attempt environment words line hline r out
  have hout : out = (Command.printed r).render line.command.layout ++ "\n" := by
    simp only [out, Console.run, hline, Command.text_pretty, r]
  obtain ⟨d, hd⟩ := exists_answers fs cwd attempt line.command
  refine ⟨⟨d, hd, hd.isWrittenAs⟩, hout, fun hpretty => ?_⟩
  have hlayout : line.command.layout = .compact := by simp [Command.layout, hpretty]
  rw [hout, hlayout, String.toList_append]
  refine lines_lineFeed fun c hc => ?_
  rw [Json.render, String.toList_ofList] at hc
  exact Json.le_of_mem_renderAt_compact hc

/-- Quotes, a backslash, controls and a character of four octets in a report, beside arrays with nothing in them. -/
theorem Document.prints_losslessly_odd_characters :
    let v : Violation := .ofParts .eslint "a\"b\\c" 3 1 "\u0001\t" "😀\n"
    let d := report (.assemble [⟨v, some ⟨"\\n", "", "\r"⟩⟩, ⟨v, none⟩] [] [])
    d.Fits ∧ (d.IsWrittenAs d.toJson ∧ d.IsWrittenAs d.toJson.sortKeys) ∧
      CommandLine.parse none ["validate"] = .ok ⟨.validate none false, "warn"⟩ ∧
      Text.lines (Console.run {} "/" (fun _ => .error (.start "")) none ["validate"]).1.stdout.toList =
        [((Command.printed (.error (.configNotFound "/lintent.yaml"))).render .compact).toList] := by
  intro v d
  have hfits : d.Fits := by
    constructor <;> decide
  have hline : CommandLine.parse none ["validate"] = .ok ⟨.validate none false, "warn"⟩ := by decide
  obtain ⟨hdocuments, hcommands⟩ := prints_losslessly
  exact ⟨hfits, hdocuments d hfits, hline, (hcommands {} "/" (fun _ => .error (.start "")) none _ _ hline).2.2 rfl⟩

end LintGloss
