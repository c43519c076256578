import LintGloss.Keyed
import LintGloss.Violation
/-!
# Configurations

What a project says about its linters and its rules.  An override changes how one
linter is run, and says nothing of what it leaves out.  Rules stand in the order of
the document.
-/

namespace LintGloss

structure Override where
  /-- Whether the linter runs, whatever is detected. -/
  enabled : Option Bool := none
  config : Option String := none
  paths : Option (List String) := none
  timeoutSecs : Option Nat := none
  deriving DecidableEq, Repr, Inhabited

structure RuleEntry where
  tool : String
  code : String
  rule : Rule
  deriving DecidableEq, Repr, Inhabited

/-- The key that a violation must have for the rule to explain it. -/
def RuleEntry.key (e : RuleEntry) : String := e.tool ++ "/" ++ e.code

structure Config where
  /-- The overrides by the names of linters.  Of two with one name the later counts. -/
  linters : List (String × Override) := []
  rules : List RuleEntry := []
  deriving DecidableEq, Repr, Inhabited

namespace Config

/-- The override that counts for a name. -/
def override? (c : Config) (name : String) : Option Override := lastOf? name c.linters

/-- The names that have rules, each where it stands first. -/
def ruleTools (c : Config) : List String := (c.rules.map (·.tool)).eraseDups

end Config

end LintGloss
