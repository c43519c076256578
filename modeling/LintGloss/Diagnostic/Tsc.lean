import LintGloss.Text.Digit
import LintGloss.Text.Lines
import LintGloss.Violation
/-!
# Diagnostics of the TypeScript compiler

Text with one diagnostic a line, `path(line,column): error TScode: message`.  A
line of another form is passed over.  The path ends at the first opening
parenthesis, so each line can be cut in one way only.
-/

namespace LintGloss.Diagnostic.Tsc

open Text (isBlank isDecimalDigit trimmed)

/-- The text after a given beginning. -/
def after? : List Char → List Char → Option (List Char)
  | [], s => some s
  | c :: cs, d :: s => if c = d then after? cs s else none
  | _ :: _, [] => none

/-- A run of digits that is not empty, and what follows it. -/
def digits? (s : List Char) : Option (List Char × List Char) :=
  match s.span isDecimalDigit with
  | ([], _) => none
  | r => some r

/-- The number of a line or a column, which is in ASCII digits. -/
def coordinate? (ds : List Char) : Option Nat :=
  let n := Text.decimalValue ds
  if ds.all Char.isDigit ∧ n ≤ Violation.greatestCoordinate then some n else none

def skipBlanks (s : List Char) : List Char := s.dropWhile isBlank

def violation? (s : List Char) : Option Violation := do
  let (path, s) := s.span (· ≠ '(')
  if path = [] then none
  else
    let s ← after? ['('] s
    let (line, s) ← digits? s
    let s ← after? [','] s
    let (column, s) ← digits? s
    let s ← after? [')', ':'] s
    let s ← after? "error".toList (skipBlanks s)
    if s.head?.all (!isBlank ·) then none
    else
      let s ← after? ['T', 'S'] (skipBlanks s)
      let (number, s) ← digits? s
      let s ← after? [':'] s
      if s = [] then none
      else
        some (.ofParts .typescript (trimmed (String.ofList path)) (← coordinate? line)
          (← coordinate? column) (String.ofList ('T' :: 'S' :: number)) (String.ofList s))

def read (output : String) : List Violation := (Text.lines output.toList).filterMap violation?

end LintGloss.Diagnostic.Tsc
