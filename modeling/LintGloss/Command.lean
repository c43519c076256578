import LintGloss.Adjustment
import LintGloss.Config.File
import LintGloss.Detection
import LintGloss.Failure
import LintGloss.Json.Printer
import LintGloss.Preset
import LintGloss.Report
import LintGloss.RuleTable
/-!
# Commands

What the four commands do.  `run` starts the linters of the directory and explains
what they find, `init` writes a configuration to start with, `validate` says whether a
configuration is well formed, and `list` shows its rules.  Only `init` writes, and it
writes one file.
-/

namespace LintGloss

inductive Command
  | run (config tool : Option String) (pretty : Bool)
  | init (config preset : String) (override pretty : Bool)
  | validate (config : Option String) (pretty : Bool)
  | list (config : Option String) (pretty : Bool)
  deriving DecidableEq, Repr

/-- What a command has to say, and whether all is well. -/
structure Reply where
  body : Json
  success : Bool
  deriving Repr

namespace Command

def pretty : Command → Bool
  | run _ _ p | init _ _ _ p | validate _ p | list _ p => p

/-! ## Running -/

/-- The linters that a run is asked for, if there are any. -/
def selection (linters : List Invocation) (tool : Option String) :
    Except Failure (List Invocation) :=
  match tool with
  | none => if linters = [] then .error .noLinters else .ok linters
  | some name =>
    match linters.filter (·.tool.name = name) with
    | [] => .error (.linterNotFound name)
    | chosen => .ok chosen

def reportOf (table : RuleTable) (detected : List Invocation) (results : List RunResult) :
    Report :=
  .assemble (gloss table (results.flatMap (·.violations))) results (detected.map (·.tool.name))

/-- All is well if there is nothing to report and every linter did its work. -/
def replyTo (results : List RunResult) (r : Report) : Reply :=
  ⟨r.toJson.sortKeys, r.violations.isEmpty && !results.any (·.isFailure)⟩

/-- Runs the linters of a directory, for what an attempt to run each comes to. -/
def runReply (fs : Files) (cwd : String) (attempt : Invocation → Attempt)
    (config tool : Option String) : Except Failure Reply := do
  let c ← (Config.load fs (Config.pathIn cwd config)).mapError .ofConfig
  let detected := Detection.detect fs cwd
  let linters ← selection (c.adjust detected) tool
  let results := runAll attempt linters
  return replyTo results (reportOf (.ofConfig c) detected results)

/-! ## Starting a configuration -/

def nextSteps (p : Preset) : List String :=
  ["Install linter: " ++ p.install, "Run: lintent run --pretty",
    "Edit rules in lintent.yaml, then check them with: lintent validate"]

def initJson (config : String) (p : Preset) : Json :=
  .obj [("created", .strings [config]), ("preset", .str p.name),
    ("next_steps", .strings (nextSteps p))]

/-- Writes a preset as a configuration.  What is there already stays unless it may be
replaced. -/
def initReply (fs : Files) (cwd config preset : String) (override : Bool) :
    Except Failure (Reply × Files) := do
  let path := Path.join cwd config
  if fs.hasPath path && !override then .error (.configExists config)
  else match Preset.ofName? preset with
    | none => .error (.unknownPreset preset)
    | some p =>
      match fs.write path (Text.Utf8.encode p.text) with
      | .error e => .error (.unwritable path e.message)
      | .ok fs => .ok (⟨(initJson config p).sortKeys, true⟩, fs)

/-! ## Looking at a configuration -/

/-- The configuration at a path where there has to be a file. -/
def present (fs : Files) (path : String) : Except Failure (Except ConfigError Config) :=
  if fs.hasPath path then .ok (Config.load fs path) else .error (.configNotFound path)

def validJson (c : Config) : Json :=
  .obj [("valid", .bool true), ("linters", .strings c.ruleTools),
    ("rules_count", .nat c.rules.length)]

def invalidJson (e : ConfigError) : Json :=
  .obj [("valid", .bool false), ("errors", .arr [.obj [("message", .str e.message)]])]

def validateReply (fs : Files) (cwd : String) (config : Option String) :
    Except Failure Reply := do
  match ← present fs (Config.pathIn cwd config) with
  | .ok c => return ⟨(validJson c).sortKeys, true⟩
  | .error e => return ⟨(invalidJson e).sortKeys, false⟩

def listJson (c : Config) : Json :=
  .obj [("count", .nat c.rules.length),
    ("rules", .arr (c.rules.map fun e => .obj [("tool", .str e.tool), ("code", .str e.code)]))]

def listReply (fs : Files) (cwd : String) (config : Option String) : Except Failure Reply := do
  let c ← (← present fs (Config.pathIn cwd config)).mapError .ofConfig
  return ⟨(listJson c).sortKeys, true⟩

/-! ## All commands -/

def execute (fs : Files) (cwd : String) (attempt : Invocation → Attempt) :
    Command → Except Failure Reply × Files
  | run config tool _ => (runReply fs cwd attempt config tool, fs)
  | init config preset override _ =>
    match initReply fs cwd config preset override with
    | .ok (r, fs) => (.ok r, fs)
    | .error f => (.error f, fs)
  | validate config _ => (validateReply fs cwd config, fs)
  | list config _ => (listReply fs cwd config, fs)

def text (pretty : Bool) (r : Except Failure Reply) : String :=
  let layout : Json.Layout := if pretty then .pretty else .compact
  match r with
  | .ok r => r.body.render layout
  | .error f => f.toJson.render layout

/-- The exit code of a command: zero if all is well. -/
def exitCode (r : Except Failure Reply) : Nat :=
  match r with
  | .ok r => if r.success then 0 else 1
  | .error _ => 1

end Command

end LintGloss
