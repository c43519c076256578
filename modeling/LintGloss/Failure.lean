import LintGloss.Config.Fault
import LintGloss.Json.Basic
/-!
# Failures of commands

Why a command has no answer.  Each failure has a code for programs and a message for
people, and both stand in the report that is printed in the place of an answer.
-/

namespace LintGloss

inductive Failure
  | configNotFound (path : String)
  | configExists (path : String)
  | unknownPreset (name : String)
  | linterNotFound (name : String)
  | noLinters
  | invalidConfig (message : String)
  | unwritable (path cause : String)
  | noDirectory (cause : String)
  deriving DecidableEq, Repr

namespace Failure

def ofConfig (e : ConfigError) : Failure := .invalidConfig e.message

def code : Failure → String
  | configNotFound _ => "CONFIG_NOT_FOUND"
  | configExists _ => "CONFIG_EXISTS"
  | unknownPreset _ => "INVALID_PRESET"
  | linterNotFound _ => "LINTER_NOT_FOUND"
  | noLinters => "NO_LINTERS"
  | invalidConfig _ => "INVALID_CONFIG"
  | unwritable .. => "INIT_ERROR"
  | noDirectory _ => "RUNTIME_ERROR"

def message : Failure → String
  | configNotFound path => "Config file not found: " ++ path
  | configExists path =>
    path ++ " already exists. Delete it first or pass --override to reinitialize."
  | unknownPreset name => "Unknown preset '" ++ name ++ "'. Available: python, typescript"
  | linterNotFound name => "Linter '" ++ name ++ "' not found or not configured"
  | noLinters =>
    "No linters detected. To fix: 1) Install a linter (pip install ruff, npm install eslint), " ++
      "2) Create config file (pyproject.toml, eslint.config.js), " ++
      "3) Run 'lintent init' to create lintent.yaml"
  | invalidConfig message => message
  | unwritable path cause => "Failed to write " ++ path ++ ": " ++ cause
  | noDirectory cause => "Cannot determine working directory: " ++ cause

def toJson (f : Failure) : Json :=
  .obj [("error", .bool true), ("code", .str f.code), ("message", .str f.message)]

end Failure

end LintGloss
