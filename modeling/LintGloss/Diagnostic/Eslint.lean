import LintGloss.Json.Parser
import LintGloss.Json.Record
import LintGloss.Violation
/-!
# Messages of eslint

One JSON array of files, each with an array of messages.  A file or a message of
another shape is passed over; a message about a whole file has no place and is
put at the start of the file.
-/

namespace LintGloss.Diagnostic.Eslint

open Json (Field)

/-- The code of a message that names no rule, such as a syntax error. -/
def fallbackCode : String := "eslint-error"

def fileShape : List Field := [⟨"filePath", false⟩, ⟨"messages", false⟩]

def shape : List Field :=
  [⟨"ruleId", false⟩, ⟨"message", false⟩, ⟨"line", true⟩, ⟨"column", true⟩]

/-- The violation of one message about a file, if it has the shape of one. -/
def violation? (file : String) (j : Json) : Option Violation := do
  let get ← j.record? shape
  let rule ← Json.optional? Json.text? (get "ruleId")
  let message ← Json.text? (get "message")
  let line ← Json.optional? (Json.boundedNat? Violation.greatestCoordinate) (get "line")
  let column ← Json.optional? (Json.boundedNat? Violation.greatestCoordinate) (get "column")
  let code := if rule.getD "" = "" then fallbackCode else rule.getD ""
  some (.ofParts .eslint file (line.getD 1) (column.getD 1) code message)

/-- The path of one file and its messages. -/
def file? (j : Json) : Option (String × List Json) := do
  let get ← j.record? fileShape
  let path ← Json.text? (get "filePath")
  match get "messages" with
  | some (.arr messages) => some (path, messages)
  | _ => none

def fileViolations (j : Json) : List Violation :=
  match file? j with
  | some (path, messages) => messages.filterMap (violation? path)
  | none => []

def read (output : String) : List Violation :=
  match Json.parse? (Text.trim output.toList) with
  | some (.arr files) => files.flatMap fileViolations
  | _ => []

end LintGloss.Diagnostic.Eslint
