import LintGloss.CommandLine.Parser
import LintGloss.Machine
/-!
# The program

What the program prints for the words of its command line, and the exit code that it
ends with.  A command prints one JSON document on its own lines.
-/

namespace LintGloss

/-- What is left of the program when it is over. -/
structure Exit where
  stdout : String
  code : Nat
  deriving DecidableEq, Repr

namespace Console

def versionText : String := "lintent 0.1.0"

def helpText : String :=
  "\n".intercalate
    ["Usage: lintent [--log-level LEVEL] run|init|validate|list [OPTIONS]",
      "  run       -c/--config FILE, -t/--tool NAME, -p/--pretty",
      "  init      --preset NAME, --config FILE, --override, -p/--pretty",
      "  validate  -c/--config FILE, -p/--pretty",
      "  list      -c/--config FILE, -p/--pretty"]

/-- The exit for a command line without a command.  To have asked for help or for the version
is no error. -/
def exitOf : UsageError → Exit
  | .help => ⟨helpText ++ "\n", 0⟩
  | .version => ⟨versionText ++ "\n", 0⟩
  | _ => ⟨"", 2⟩

/-- The exit of the program in a directory, and the files after it, for what an attempt to
run each linter comes to. -/
def run (fs : Files) (cwd : String) (attempt : Invocation → Attempt)
    (environment : Option String) (words : List String) : Exit × Files :=
  match CommandLine.parse environment words with
  | .error e => (exitOf e, fs)
  | .ok line =>
    let (r, fs) := line.command.execute fs cwd attempt
    (⟨Command.text line.command.pretty r ++ "\n", Command.exitCode r⟩, fs)

end Console

namespace Machine

def execute (m : Machine) (cwd : String) (c : Command) : Except Failure Reply × Machine :=
  let (r, files) := c.execute m.files cwd (m.attempt cwd)
  (r, { m with files })

end Machine

end LintGloss
