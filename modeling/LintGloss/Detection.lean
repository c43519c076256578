import LintGloss.Files.Path
import LintGloss.Invocation
import LintGloss.Json.Parser
import LintGloss.Toml.Parser
/-!
# Detecting linters

A linter is detected by its configuration: a file of its own, or a part of a file
that several tools share.  The file of its own comes first.  A shared file that
cannot be read, or that says something else, is as good as none.
-/

namespace LintGloss.Detection

/-- The file that Python tools share. -/
def projectFile : String := "pyproject.toml"

/-- The file that packages for JavaScript have. -/
def packageFile : String := "package.json"

/-- The files of a tool's own, the first that exists counting. -/
def ownFiles : Tool → List String
  | .ruff => ["ruff.toml"]
  | .pyright => ["pyrightconfig.json"]
  | .eslint =>
    ["eslint.config.js", "eslint.config.mjs", "eslint.config.cjs", ".eslintrc.js",
      ".eslintrc.cjs", ".eslintrc.json", ".eslintrc.yml", ".eslintrc.yaml"]
  | .typescript => ["tsconfig.json"]

/-- The tables of the project file have one for the tool. -/
def projectHas (t : Tool) (text : String) : Bool :=
  match Toml.parse? text.toList with
  | some project => (project.get? "tool").any fun tools => (tools.get? t.name).any (·.isTable)
  | none => false

/-- The package depends on eslint, or its development does. -/
def packageHasEslint (text : String) : Bool :=
  match Json.parse? text.toList with
  | some package => ["dependencies", "devDependencies"].any fun part =>
      ((package.member? part).bind (·.member? "eslint")).isSome
  | none => false

/-- What a file says, if it can be read. -/
def tells (fs : Files) (path : String) (p : String → Bool) : Bool :=
  match fs.readText path with
  | .ok text => p text
  | .error _ => false

/-- The invocation of a tool that has no file of its own, if a shared file speaks of it. -/
def shared? (fs : Files) (cwd : String) (t : Tool) : Option Invocation :=
  let project := Path.join cwd projectFile
  match t with
  | .ruff | .pyright =>
    if tells fs project (projectHas t) then some (.standard t (some project)) else none
  | .eslint =>
    if tells fs (Path.join cwd packageFile) packageHasEslint then some (.standard t none) else none
  | .typescript => none

def detect? (fs : Files) (cwd : String) (t : Tool) : Option Invocation :=
  match (ownFiles t).map (Path.join cwd) |>.find? fs.hasPath with
  | some path => some (.standard t (some path))
  | none => shared? fs cwd t

def detect (fs : Files) (cwd : String) : List Invocation := Tool.all.filterMap (detect? fs cwd)

end LintGloss.Detection
