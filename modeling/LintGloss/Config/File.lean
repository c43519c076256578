import LintGloss.Config.Decoder
import LintGloss.Files.Path
/-!
# The configuration file
-/

namespace LintGloss.Config

/-- The file where a configuration is looked for. -/
def fileName : String := "lintent.yaml"

/-- The path of a configuration: what was asked for, or the usual file. -/
def pathIn (cwd : String) (asked : Option String) : String :=
  Path.join cwd (asked.getD fileName)

/-- The configuration at a path.  If nothing is there, it is empty. -/
def load (fs : Files) (path : String) : Except ConfigError Config :=
  if fs.hasPath path then
    match fs.readText path with
    | .ok text => parse text
    | .error e => .error (.unreadable path e.message)
  else .ok {}

end LintGloss.Config
