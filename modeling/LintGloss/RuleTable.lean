import LintGloss.Config
/-!
# Explaining violations

A table gives the rule for the text of a key.  Two entries of a configuration can
have one text, since the parts of a key may hold slashes; then the later one counts.
`gloss` puts its rule, or none, on each violation and changes nothing else.
-/

namespace LintGloss

structure RuleTable where
  /-- The rules by their keys; of two with one key the later counts. -/
  entries : List (String × Rule) := []
  deriving DecidableEq, Repr, Inhabited

namespace RuleTable

def ofConfig (c : Config) : RuleTable := ⟨c.rules.map fun e => (e.key, e.rule)⟩

def get? (t : RuleTable) (key : String) : Option Rule := lastOf? key t.entries

def isEmpty (t : RuleTable) : Bool := t.entries.isEmpty

end RuleTable

def gloss (t : RuleTable) (vs : List Violation) : List Glossed :=
  vs.map fun v => ⟨v, t.get? v.ruleKey⟩

end LintGloss
