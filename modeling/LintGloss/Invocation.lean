import LintGloss.Tool
/-!
# Invocations

How one linter is started: its program, the arguments that choose the format, and
what it is to check.  The path of a configuration file is known for two reasons.  A
path that was only found says why the linter runs, and stays off the command line;
one that was asked for is passed on.
-/

namespace LintGloss

structure Invocation where
  tool : Tool
  /-- The configuration file that was found, or the one that was asked for. -/
  configPath : Option String
  /-- Whether the configuration file was asked for. -/
  explicitConfig : Bool
  program : String
  formatArgs : List String
  targets : List String
  /-- After how many seconds the linter is stopped. -/
  timeoutSecs : Option Nat
  deriving DecidableEq, Repr, Inhabited

namespace Invocation

def standard (t : Tool) (configPath : Option String) : Invocation :=
  ⟨t, configPath, false, t.program, t.formatArgs, t.targets, none⟩

/-- The flag and the path of a configuration file that was asked for. -/
def configArgs (i : Invocation) : List String :=
  match i.explicitConfig, i.configPath with
  | true, some path => [i.tool.configFlag, path]
  | _, _ => []

/-- What is checked.  The TypeScript compiler takes no files beside a configuration. -/
def targetArgs (i : Invocation) : List String :=
  if i.explicitConfig ∧ i.tool = .typescript then [] else i.targets

/-- All arguments: the format, the configuration, the targets. -/
def args (i : Invocation) : List String := i.formatArgs ++ i.configArgs ++ i.targetArgs

/-- The command line as a report shows it. -/
def commandLine (i : Invocation) : String := " ".intercalate (i.program :: i.args)

end Invocation

end LintGloss
