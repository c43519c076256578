/-!
# The linters

The four tools that can be run, and what is known about each: the name in reports
and rule keys, the program to start, the arguments that make it write its
machine-readable format, where it looks for code, and how it ends when all went
well.
-/

namespace LintGloss

inductive Tool
  | ruff
  | pyright
  | eslint
  | typescript
  deriving DecidableEq, Repr, Inhabited

namespace Tool

/-- All tools, in the order in which they are detected. -/
def all : List Tool := [ruff, pyright, eslint, typescript]

def name : Tool → String
  | ruff => "ruff"
  | pyright => "pyright"
  | eslint => "eslint"
  | typescript => "typescript"

/-- The tool of a name, which has to match in every letter. -/
def ofName? (s : String) : Option Tool := all.find? (·.name = s)

/-- What is said of a name that no tool has. -/
def unknownMessage (s : String) : String := "unknown linter '" ++ s ++ "'"

def program : Tool → String
  | ruff => "ruff"
  | pyright => "pyright"
  | eslint => "eslint"
  | typescript => "tsc"

/-- The arguments that choose the machine-readable format. -/
def formatArgs : Tool → List String
  | ruff => ["check", "--output-format", "json"]
  | pyright => ["--outputjson"]
  | eslint => ["--format", "json"]
  | typescript => ["--noEmit", "--pretty", "false"]

/-- What is checked if nothing else is asked for.  The TypeScript compiler takes its
files from its own configuration, so it is given none. -/
def targets : Tool → List String
  | typescript => []
  | _ => ["."]

/-- The flag before the path of a configuration file. -/
def configFlag : Tool → String
  | ruff | eslint => "--config"
  | pyright | typescript => "--project"

/-- The greatest exit code of a run that did its work, with or without findings.  The
TypeScript compiler has a second code for findings. -/
def greatestNormalExit : Tool → Int
  | typescript => 2
  | _ => 1

/-- How to get the tool when it is missing. -/
def installHint : Tool → String
  | ruff => "pip install ruff (or: brew install ruff)"
  | pyright => "pip install pyright (or: npm install -g pyright)"
  | eslint => "npm install eslint"
  | typescript => "npm install typescript"

theorem mem_all (t : Tool) : t ∈ all := by cases t <;> decide

theorem name_injective {s t : Tool} (h : s.name = t.name) : s = t := by
  cases s <;> cases t <;> first | rfl | exact absurd h (by decide)

@[simp] theorem ofName?_name (t : Tool) : ofName? t.name = some t := by cases t <;> decide

end Tool

end LintGloss
