import LintGloss.Json.Parser
import LintGloss.Json.Record
import LintGloss.Violation
/-!
# Diagnostics of ruff

One JSON array of diagnostics, with coordinates that count from one.  What is not
such an array has no diagnostics, and an item of another shape is passed over.
-/

namespace LintGloss.Diagnostic.Ruff

open Json (Field)

/-- The code of a diagnostic that names no rule, such as a syntax error. -/
def fallbackCode : String := "ruff-error"

def shape : List Field :=
  [⟨"code", true⟩, ⟨"filename", false⟩, ⟨"location", false⟩, ⟨"message", false⟩]

def locationShape : List Field := [⟨"row", false⟩, ⟨"column", false⟩]

def location? (j : Json) : Option (Nat × Nat) := do
  let get ← j.record? locationShape
  let row ← Json.boundedNat? Violation.greatestCoordinate (get "row")
  let column ← Json.boundedNat? Violation.greatestCoordinate (get "column")
  some (row, column)

/-- The violation of one diagnostic, if it has the shape of one. -/
def violation? (j : Json) : Option Violation := do
  let get ← j.record? shape
  let code ← Json.optional? Json.text? (get "code")
  let file ← Json.text? (get "filename")
  let (row, column) ← location? (← get "location")
  let message ← Json.text? (get "message")
  let code := if code.getD "" = "" then fallbackCode else code.getD ""
  some (.ofParts .ruff file row column code message)

def read (output : String) : List Violation :=
  match Json.parse? (Text.trim output.toList) with
  | some (.arr items) => items.filterMap violation?
  | _ => []

end LintGloss.Diagnostic.Ruff
