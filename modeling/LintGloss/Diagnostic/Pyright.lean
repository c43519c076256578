import LintGloss.Json.Parser
import LintGloss.Json.Record
import LintGloss.Violation
/-!
# Diagnostics of pyright

A JSON object that holds the diagnostics in an array, with coordinates that count
from zero.  A diagnostic of a whole file has no range and is placed at the start
of the file.
-/

namespace LintGloss.Diagnostic.Pyright

open Json (Field)

def itemsKey : String := "generalDiagnostics"

/-- The code of a diagnostic that names no rule. -/
def fallbackCode (severity : String) : String := "pyright-" ++ severity

def shape : List Field :=
  [⟨"file", false⟩, ⟨"severity", false⟩, ⟨"message", false⟩, ⟨"range", true⟩, ⟨"rule", true⟩]

def rangeShape : List Field := [⟨"start", false⟩]

def positionShape : List Field := [⟨"line", false⟩, ⟨"character", false⟩]

/-- A coordinate that counts from zero as one that counts from one; the greatest stays
as it is. -/
def fromOne (n : Nat) : Nat := min (n + 1) Violation.greatestCoordinate

/-- The line and the column of a position. -/
def position? (j : Json) : Option (Nat × Nat) := do
  let get ← j.record? positionShape
  let line ← Json.boundedNat? Violation.greatestCoordinate (get "line")
  let character ← Json.boundedNat? Violation.greatestCoordinate (get "character")
  some (fromOne line, fromOne character)

/-- The line and the column of a range's start. -/
def start? (j : Json) : Option (Nat × Nat) := do
  let range ← j.record? rangeShape
  position? (← range "start")

/-- The violation of one diagnostic, if it has the shape of one. -/
def violation? (j : Json) : Option Violation := do
  let get ← j.record? shape
  let file ← Json.text? (get "file")
  let severity ← Json.text? (get "severity")
  let message ← Json.text? (get "message")
  let start ← Json.optional? (· >>= start?) (get "range")
  let rule ← Json.optional? Json.text? (get "rule")
  let code := if rule.getD "" = "" then fallbackCode severity else rule.getD ""
  let (line, column) := start.getD (1, 1)
  some (.ofParts .pyright file line column code message)

def read (output : String) : List Violation :=
  match (Json.parse? (Text.trim output.toList)).bind (·.member? itemsKey) with
  | some (.arr items) => items.filterMap violation?
  | _ => []

end LintGloss.Diagnostic.Pyright
