import LintGloss.Diagnostic
import LintGloss.Proofs.Diagnostic.Line
/-!
# Readings item by item

Three tools write JSON, and the reading of their output is a concatenation over the items of one array
(`read_eq_flatMap`): what an item gives depends on nothing beside it.  Every violation that is read, from any tool, is
built by `Violation.ofParts` under the name of that tool, from coordinates in range and a code that is not empty
(`exists_parts_of_mem_read`).
-/

namespace LintGloss

open Diagnostic

namespace Tool

/-- Whether the tool writes JSON; the other one writes lines. -/
def writesJson : Tool → Bool
  | typescript => false
  | _ => true

/-- The items that a JSON value holds for a tool, if it has the shape at its top. -/
def itemsIn? : Tool → Json → Option (List Json)
  | ruff, .arr items | eslint, .arr items => some items
  | pyright, j =>
    match j.member? Pyright.itemsKey with
    | some (.arr items) => some items
    | _ => none
  | _, _ => none

def items? (t : Tool) (output : String) : Option (List Json) :=
  (Json.parse? (Text.trim output.toList)).bind t.itemsIn?

def itemViolations : Tool → Json → List Violation
  | ruff, j => (Ruff.violation? j).toList
  | pyright, j => (Pyright.violation? j).toList
  | eslint, j => Eslint.fileViolations j
  | typescript, _ => []

theorem filterMap_eq_flatMap {α β : Type} (f : α → Option β) (l : List α) :
    l.filterMap f = l.flatMap fun a => (f a).toList := by
  induction l with
  | nil => rfl
  | cons a l ih => cases h : f a <;> simp [h, ih]

/-- **The reading of an output is the concatenation of what its items give**; an output without items gives nothing. -/
theorem read_eq_flatMap {t : Tool} (ht : t.writesJson = true) (output : String) :
    t.read output = ((t.items? output).getD []).flatMap t.itemViolations := by
  cases t with
  | ruff =>
    simp only [read, Ruff.read, items?]
    cases h : Json.parse? (Text.trim output.toList) with
    | none => rfl
    | some j => cases j <;> first | rfl | exact filterMap_eq_flatMap _ _
  | pyright =>
    simp only [read, Pyright.read, items?]
    cases h : Json.parse? (Text.trim output.toList) with
    | none => rfl
    | some j =>
      simp only [Option.bind_some, itemsIn?]
      cases j.member? Pyright.itemsKey with
      | none => rfl
      | some items => cases items <;> first | rfl | exact filterMap_eq_flatMap _ _
  | eslint =>
    simp only [read, Eslint.read, items?]
    cases h : Json.parse? (Text.trim output.toList) with
    | none => rfl
    | some j => cases j <;> rfl
  | typescript => cases ht

end Tool

/-! ## What violations are built from -/

namespace Json

theorem le_of_boundedNat? {bound n : Nat} {j : Option Json} (h : boundedNat? bound j = some n) : n ≤ bound := by
  unfold boundedNat? at h
  split at h
  · obtain ⟨⟨h0, hle⟩, hn⟩ := Option.ite_none_right_eq_some.1 h
    have hn' := Option.some.inj hn
    omega
  · cases h

/-- A number that may be left out is in its bound too, if its stand-in is. -/
theorem getD_le_of_optional? {bound stand : Nat} (hstand : stand ≤ bound) {j : Option Json} {o : Option Nat}
    (h : optional? (boundedNat? bound) j = some o) : o.getD stand ≤ bound := by
  unfold optional? at h
  split at h
  · rw [← Option.some.inj h]
    exact hstand
  · rw [← Option.some.inj h]
    exact hstand
  · obtain ⟨n, hn, rfl⟩ := Option.map_eq_some_iff.1 h
    exact le_of_boundedNat? hn

end Json

/-- Parts of a violation such as a tool gives them: coordinates in its range, and a code. -/
structure Violation.Plausible (line column : Nat) (code : String) : Prop where
  line_le : line ≤ greatestCoordinate
  column_le : column ≤ greatestCoordinate
  code_ne_empty : code ≠ ""

namespace Diagnostic

open Violation (greatestCoordinate Plausible)

theorem code_ne_empty {fallback : String} (hfallback : fallback ≠ "") (code : Option String) :
    (if code.getD "" = "" then fallback else code.getD "") ≠ "" := by
  by_cases hcode : code.getD "" = ""
  · rwa [if_pos hcode]
  · rwa [if_neg hcode]

theorem Ruff.le_of_location? {j : Json} {row column : Nat} (h : Ruff.location? j = some (row, column)) :
    row ≤ greatestCoordinate ∧ column ≤ greatestCoordinate := by
  simp only [Ruff.location?, bind, Option.bind_eq_some_iff] at h
  obtain ⟨get, -, r, hr, c, hc, h⟩ := h
  obtain ⟨rfl, rfl⟩ := Prod.mk.inj (Option.some.inj h)
  exact ⟨Json.le_of_boundedNat? hr, Json.le_of_boundedNat? hc⟩

theorem Ruff.exists_parts {j : Json} {v : Violation} (h : Ruff.violation? j = some v) :
    ∃ file line column code message, Plausible line column code ∧ v = .ofParts .ruff file line column code message := by
  simp only [Ruff.violation?, bind, Option.bind_eq_some_iff] at h
  obtain ⟨get, -, code, -, file, -, place, -, ⟨row, column⟩, hplace, message, -, h⟩ := h
  obtain ⟨hrow, hcolumn⟩ := le_of_location? hplace
  exact ⟨file, row, column, _, message, ⟨hrow, hcolumn, code_ne_empty (by decide) code⟩, (Option.some.inj h).symm⟩

theorem Pyright.fromOne_le (n : Nat) : fromOne n ≤ greatestCoordinate := Nat.min_le_right _ _

theorem Pyright.le_of_position? {j : Json} {place : Nat × Nat} (h : Pyright.position? j = some place) :
    place.1 ≤ greatestCoordinate ∧ place.2 ≤ greatestCoordinate := by
  simp only [Pyright.position?, bind, Option.bind_eq_some_iff] at h
  obtain ⟨get, -, line, -, character, -, h⟩ := h
  rw [← Option.some.inj h]
  exact ⟨fromOne_le line, fromOne_le character⟩

theorem Pyright.le_of_start? {j : Json} {place : Nat × Nat} (h : Pyright.start? j = some place) :
    place.1 ≤ greatestCoordinate ∧ place.2 ≤ greatestCoordinate := by
  simp only [Pyright.start?, bind, Option.bind_eq_some_iff] at h
  obtain ⟨range, -, start, -, h⟩ := h
  exact le_of_position? h

/-- Where a diagnostic without a range is placed is a place, too. -/
theorem Pyright.getD_le_of_optional? {j : Option Json} {o : Option (Nat × Nat)}
    (h : Json.optional? (· >>= start?) j = some o) :
    (o.getD (1, 1)).1 ≤ greatestCoordinate ∧ (o.getD (1, 1)).2 ≤ greatestCoordinate := by
  cases o with
  | none => exact ⟨by decide, by decide⟩
  | some place =>
    unfold Json.optional? at h
    split at h
    · cases h
    · cases h
    · obtain ⟨p, hp, hplace⟩ := Option.map_eq_some_iff.1 h
      obtain ⟨start, -, hstart⟩ := Option.bind_eq_some_iff.1 hp
      exact Option.some.inj hplace ▸ le_of_start? hstart

theorem Pyright.fallbackCode_ne_empty (severity : String) : fallbackCode severity ≠ "" := by
  intro h
  have hlist := congrArg String.toList h
  simp [fallbackCode] at hlist

theorem Pyright.exists_parts {j : Json} {v : Violation} (h : Pyright.violation? j = some v) :
    ∃ file line column code message,
      Plausible line column code ∧ v = .ofParts .pyright file line column code message := by
  simp only [Pyright.violation?, bind, Option.bind_eq_some_iff] at h
  obtain ⟨get, -, file, -, severity, -, message, -, start, hstart, rule, -, h⟩ := h
  obtain ⟨hline, hcolumn⟩ := getD_le_of_optional? hstart
  have hcode := code_ne_empty (fallbackCode_ne_empty severity) rule
  exact ⟨file, _, _, _, message, ⟨hline, hcolumn, hcode⟩, (Option.some.inj h).symm⟩

/-- A message carries the path of the file that holds it. -/
theorem Eslint.exists_parts {path : String} {j : Json} {v : Violation} (h : Eslint.violation? path j = some v) :
    ∃ line column code message, Plausible line column code ∧ v = .ofParts .eslint path line column code message := by
  simp only [Eslint.violation?, bind, Option.bind_eq_some_iff] at h
  obtain ⟨get, -, rule, -, message, -, line, hline, column, hcolumn, h⟩ := h
  have hone : 1 ≤ greatestCoordinate := by decide
  exact ⟨_, _, _, message, ⟨Json.getD_le_of_optional? hone hline, Json.getD_le_of_optional? hone hcolumn,
    code_ne_empty (by decide) rule⟩, (Option.some.inj h).symm⟩

/-- The path is trimmed, and the code is `TS` with digits behind it. -/
theorem Tsc.exists_parts {s : List Char} {v : Violation} (h : Tsc.violation? s = some v) :
    ∃ path line column number message, number ≠ [] ∧ (∀ c ∈ number, Text.isDecimalDigit c = true) ∧
      Plausible line column (String.ofList ('T' :: 'S' :: number)) ∧
      v = .ofParts .typescript (Text.trimmed path) line column (String.ofList ('T' :: 'S' :: number)) message := by
  obtain ⟨l, hl, -, rfl⟩ := exists_line h
  have hcode : String.ofList ('T' :: 'S' :: l.number) ≠ "" := fun hempty => by
    have hlist := congrArg String.toList hempty
    simp at hlist
  exact ⟨_, _, _, l.number, _, hl.number_ne_nil, hl.number, ⟨hl.line.le, hl.column.le, hcode⟩,
    l.ofParts_eq_violation.symm⟩

end Diagnostic

namespace Tool

open Violation (Plausible)

theorem exists_parts_of_mem_itemViolations {t : Tool} {j : Json} {v : Violation} (h : v ∈ t.itemViolations j) :
    ∃ file line column code message, Plausible line column code ∧ v = .ofParts t file line column code message := by
  cases t with
  | ruff => exact Ruff.exists_parts (Option.mem_toList.1 h)
  | pyright => exact Pyright.exists_parts (Option.mem_toList.1 h)
  | eslint =>
    simp only [itemViolations, Eslint.fileViolations] at h
    split at h
    · obtain ⟨m, -, hm⟩ := List.mem_filterMap.1 h
      exact ⟨_, Eslint.exists_parts hm⟩
    · cases h
  | typescript => cases h

/-- **Every violation is built for the tool that is read**, from parts such as the tool gives them. -/
theorem exists_parts_of_mem_read {t : Tool} {output : String} {v : Violation} (h : v ∈ t.read output) :
    ∃ file line column code message, Plausible line column code ∧ v = .ofParts t file line column code message := by
  by_cases ht : t.writesJson = true
  · rw [read_eq_flatMap ht] at h
    obtain ⟨j, -, hj⟩ := List.mem_flatMap.1 h
    exact exists_parts_of_mem_itemViolations hj
  · cases t with
    | typescript =>
      obtain ⟨s, -, hs⟩ := List.mem_filterMap.1 h
      obtain ⟨path, line, column, number, message, -, -, hplausible, rfl⟩ := Tsc.exists_parts hs
      exact ⟨_, line, column, _, message, hplausible, rfl⟩
    | _ => exact absurd rfl ht

/-- **No violation is put down to another tool.** -/
theorem tool_of_mem_read {t : Tool} {output : String} {v : Violation} (h : v ∈ t.read output) : v.tool = t := by
  obtain ⟨file, line, column, code, message, -, rfl⟩ := exists_parts_of_mem_read h
  rfl

end Tool

end LintGloss
