import LintGloss.Config
import LintGloss.Invocation
/-!
# Adjusting invocations

What a configuration makes of the linters that were detected.  A linter that it
turns off is left out, and one that it turns on is added if it was not detected; what
else an override says takes the place of the defaults.  Names that no tool has say
nothing.
-/

namespace LintGloss

/-- The invocation with what an override says in the place of what was there. -/
def Invocation.adjust (i : Invocation) (o : Override) : Invocation :=
  { i with
    configPath := o.config <|> i.configPath
    explicitConfig := o.config.isSome || i.explicitConfig
    targets := o.paths.getD i.targets
    timeoutSecs := o.timeoutSecs <|> i.timeoutSecs }

namespace Config

/-- What becomes of a linter that was detected. -/
def keep? (c : Config) (i : Invocation) : Option Invocation :=
  match c.override? i.tool.name with
  | none => some i
  | some o => if o.enabled = some false then none else some (i.adjust o)

/-- The invocation of a linter that was not detected, if it is turned on. -/
def force? (c : Config) (t : Tool) : Option Invocation :=
  match c.override? t.name with
  | some o => if o.enabled = some true then some ((Invocation.standard t none).adjust o) else none
  | none => none

/-- The linters that run: those that were detected in their order, then the others. -/
def adjust (c : Config) (detected : List Invocation) : List Invocation :=
  let others := Tool.all.filter fun t => t ∉ detected.map (·.tool)
  detected.filterMap c.keep? ++ others.filterMap c.force?

end Config

end LintGloss
