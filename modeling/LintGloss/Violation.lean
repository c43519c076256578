import LintGloss.Text.Blank
import LintGloss.Tool
/-!
# Violations and rules

A violation is one finding of one tool, in a form that is the same for all tools.
A rule says in words what a finding of some code is about.  `Violation.ruleKey`
is the text by which the two are joined.
-/

namespace LintGloss

/-- A place in a file and what is wrong there.  Lines and columns count from one. -/
structure Violation where
  tool : Tool
  file : String
  line : Nat
  column : Nat
  code : String
  message : String
  deriving DecidableEq, Repr, Inhabited

namespace Violation

/-- The greatest number that a tool can give for a line or a column. -/
def greatestCoordinate : Nat := 4294967295

/-- A violation with its coordinates raised to one and its message trimmed. -/
def ofParts (tool : Tool) (file : String) (line column : Nat) (code message : String) :
    Violation :=
  ⟨tool, file, max line 1, max column 1, code, Text.trimmed message⟩

def ruleKey (v : Violation) : String := v.tool.name ++ "/" ++ v.code

end Violation

/-- What a rule forbids, what to do instead, and the reason. -/
structure Rule where
  illegal : String
  legal : String
  why : String
  deriving DecidableEq, Repr, Inhabited

/-- A violation with the rule that explains it, if there is one. -/
structure Glossed where
  violation : Violation
  semantic : Option Rule
  deriving DecidableEq, Repr, Inhabited

end LintGloss
