import LintGloss.Proofs.Diagnostic
/-!
# Violations that are read

Whatever a tool has written, garbled or hostile, a violation that is read from it can be shown and looked up: it is one
of that tool, it has a place that counts from one, a code, and a message without blanks around it (`read_wellFormed`).
A coordinate of zero becomes one, and one that counts from zero does not overflow when it is made to count from one.
-/

namespace LintGloss

/-- Nothing blank is at either end. -/
structure Text.IsTrimmed (s : String) : Prop where
  head : ∀ c ∈ s.toList.head?, Text.isBlank c = false
  last : ∀ c ∈ s.toList.getLast?, Text.isBlank c = false

theorem Text.isTrimmed_trimmed (s : String) : Text.IsTrimmed (Text.trimmed s) where
  head c hc := by
    rw [Text.trimmed, String.toList_ofList] at hc
    exact Text.head_trim hc
  last c hc := by
    rw [Text.trimmed, String.toList_ofList] at hc
    exact Text.getLast_trim hc

namespace Violation

structure WellFormed (v : Violation) : Prop where
  line_pos : 1 ≤ v.line
  line_le : v.line ≤ greatestCoordinate
  column_pos : 1 ≤ v.column
  column_le : v.column ≤ greatestCoordinate
  code_ne_empty : v.code ≠ ""
  message_trimmed : Text.IsTrimmed v.message

/-- What a violation of the TypeScript compiler has beyond that: a trimmed path, and a code that is `TS` and at least
one digit. -/
structure IsNumbered (v : Violation) : Prop where
  file_trimmed : Text.IsTrimmed v.file
  code_eq : ∃ d ds, v.code.toList = 'T' :: 'S' :: d :: ds ∧ ∀ c ∈ d :: ds, Text.isDecimalDigit c = true

theorem max_one_le {n : Nat} (h : n ≤ greatestCoordinate) : max n 1 ≤ greatestCoordinate := by
  have hone : 1 ≤ greatestCoordinate := by decide
  omega

/-- Plausible parts make a well-formed violation, also with a coordinate of zero. -/
theorem wellFormed_ofParts {line column : Nat} {code : String} (h : Plausible line column code) (t : Tool)
    (file message : String) : (ofParts t file line column code message).WellFormed where
  line_pos := Nat.le_max_right line 1
  line_le := max_one_le h.line_le
  column_pos := Nat.le_max_right column 1
  column_le := max_one_le h.column_le
  code_ne_empty := h.code_ne_empty
  message_trimmed := Text.isTrimmed_trimmed message

end Violation

open Diagnostic in
theorem Diagnostic.Tsc.isNumbered_of_violation? {s : List Char} {v : Violation} (h : Tsc.violation? s = some v) :
    v.IsNumbered := by
  obtain ⟨path, line, column, number, message, hne, hdigits, -, rfl⟩ := Tsc.exists_parts h
  obtain ⟨d, ds, rfl⟩ := List.exists_cons_of_ne_nil hne
  refine ⟨Text.isTrimmed_trimmed path, d, ds, ?_, hdigits⟩
  rw [Violation.ofParts, String.toList_ofList]

namespace Tool

variable {t : Tool} {output : String} {v : Violation}

/-- **Every violation that is read is well formed**, whatever the output. -/
theorem read_wellFormed (h : v ∈ t.read output) :
    v.tool = t ∧ v.WellFormed ∧ (t = typescript → v.IsNumbered) := by
  refine ⟨tool_of_mem_read h, ?_, ?_⟩
  · obtain ⟨file, line, column, code, message, hplausible, rfl⟩ := exists_parts_of_mem_read h
    exact Violation.wellFormed_ofParts hplausible t file message
  · rintro rfl
    obtain ⟨s, -, hs⟩ := List.mem_filterMap.1 h
    exact Diagnostic.Tsc.isNumbered_of_violation? hs

/-- The greatest line and the column zero of pyright, a severity and a rule without a letter, and blanks around the
message. -/
theorem read_wellFormed_pyright :
    let output := "\x7b\"generalDiagnostics\":[[\"a.py\",\"\",\"\\n m \",[[4294967295,0]],\"\"]]\x7d"
    let v : Violation := ⟨.pyright, "a.py", 4294967295, 1, "pyright-", "m"⟩
    v ∈ read pyright output ∧ v.tool = pyright ∧ v.WellFormed ∧ (pyright = typescript → v.IsNumbered) := by
  intro output v
  have hread : read pyright output = [v] := by decide +kernel
  have hmem : v ∈ read pyright output := hread ▸ List.mem_singleton_self v
  exact ⟨hmem, read_wellFormed hmem⟩

end Tool

end LintGloss
