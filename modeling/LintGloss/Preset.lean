/-!
# Presets

The configurations to start with.  A preset is kept as what it says, and `text`
writes it out: a note, then one rule after the other with blank lines between.  Its
texts hold neither quotes nor backslashes, so they stand between double quotes as
they are.
-/

namespace LintGloss

structure PresetRule where
  code : String
  illegal : String
  legal : String
  why : String
  deriving DecidableEq, Repr

structure Preset where
  name : String
  /-- How to get the first of its linters. -/
  install : String
  /-- Where its linters are looked for. -/
  detectedFrom : String
  rules : List (String × List PresetRule)
  deriving DecidableEq, Repr

namespace Preset

/-! ## The text of a preset -/

def fieldLine (name value : String) : String := "      " ++ name ++ ": \"" ++ value ++ "\""

def ruleLines (r : PresetRule) : List String :=
  ["    " ++ r.code ++ ":", fieldLine "illegal" r.illegal, fieldLine "legal" r.legal,
    fieldLine "why" r.why]

/-- The lines of one tool, with a blank line between two rules. -/
def toolLines (tool : String × List PresetRule) : List String :=
  ("  " ++ tool.1 ++ ":") :: [""].intercalate (tool.2.map ruleLines)

def lines (p : Preset) : List String :=
  ["# lintent.yaml: semantic meaning for lint rules", "# " ++ p.detectedFrom, "", "rules:"] ++
    [""].intercalate (p.rules.map toolLines)

def text (p : Preset) : String := String.join (p.lines.map (· ++ "\n"))

/-! ## The presets there are -/

def python : Preset where
  name := "python"
  install := "pip install ruff"
  detectedFrom :=
    "ruff and pyright are detected from pyproject.toml, ruff.toml, or pyrightconfig.json."
  rules :=
    [("ruff",
      [⟨"E501",
          "Lines longer than the configured limit",
          "Split the expression across lines or pull parts into named variables",
          "Code should read without horizontal scrolling"⟩,
       ⟨"F401",
          "Imports that are never used",
          "Import only what the module uses, or mark side-effect imports with # noqa: F401",
          "Unused imports hide the real dependency graph and slow startup"⟩,
       ⟨"F841",
          "Local variables that are assigned but never read",
          "Use the value, drop the assignment, or prefix the name with _ when discarding on purpose",
          "A dead assignment usually means unfinished logic or a botched refactor"⟩,
       ⟨"I001",
          "Unsorted import block",
          "Group imports as stdlib, third-party, local and sort each group",
          "A stable import order makes dependencies easy to scan"⟩,
       ⟨"B006",
          "Mutable default argument",
          "Default to None and build the mutable value inside the function",
          "Default values are evaluated once and shared between calls"⟩,
       ⟨"C901",
          "Functions with high cyclomatic complexity",
          "Extract branches into smaller single-purpose functions",
          "Complex functions are hard to test and to change safely"⟩]),
     ("pyright",
      [⟨"reportMissingTypeStubs",
          "Importing an untyped library without acknowledging it",
          "Install types-* stubs, prefer packages shipping py.typed, or add an explicit ignore",
          "Type boundaries must be explicit for checking to mean anything"⟩,
       ⟨"reportUnusedVariable",
          "Variables that are declared but never read",
          "Use the variable or prefix it with _ to mark an intentional discard",
          "Unused variables point at incomplete logic"⟩,
       ⟨"reportMissingParameterType",
          "Function parameters without type annotations",
          "Annotate every parameter and the return type",
          "Annotations let tools catch mistakes while editing"⟩,
       ⟨"reportGeneralTypeIssues",
          "Incompatible types",
          "Fix the mismatch or narrow the type explicitly",
          "Type errors are usually logic bugs that would fail at runtime"⟩])]

def typescript : Preset where
  name := "typescript"
  install := "npm install -D eslint"
  detectedFrom :=
    "eslint and tsc are detected from eslint.config.js, package.json, or tsconfig.json."
  rules :=
    [("eslint",
      [⟨"no-unused-vars",
          "Variables that are declared but never read",
          "Remove the variable or prefix it with _ when it is intentionally unused",
          "Dead bindings clutter the code and suggest unfinished logic"⟩,
       ⟨"no-console",
          "console.* calls in production code",
          "Use the project logger or remove debugging output",
          "Console output is a debugging aid, not an interface"⟩,
       ⟨"prefer-const",
          "let bindings that are never reassigned",
          "Declare values that never change with const",
          "const states intent and blocks accidental reassignment"⟩,
       ⟨"eqeqeq",
          "Loose equality with == or !=",
          "Use === and !== to compare without coercion",
          "Loose equality coerces types in surprising ways"⟩,
       ⟨"no-var",
          "Declaring variables with var",
          "Use let or const",
          "var is function-scoped and hoisted, which invites confusion"⟩]),
     ("typescript",
      [⟨"TS2322",
          "Assigning a value of the wrong type",
          "Make the types line up or convert the value explicitly",
          "A type mismatch is usually a logic error"⟩,
       ⟨"TS2345",
          "Passing an argument whose type does not match the parameter",
          "Pass the right type or fix the function signature",
          "Function contracts only hold if callers honor them"⟩,
       ⟨"TS7006",
          "Parameters that implicitly have type any",
          "Annotate the parameter type",
          "Implicit any switches off checking for everything it touches"⟩,
       ⟨"TS2304",
          "Referencing a name that does not exist",
          "Import the module or declare the name",
          "Undefined names fail at runtime"⟩,
       ⟨"TS2339",
          "Accessing a property the type does not have",
          "Check the type definition or add the property",
          "It means the code assumes the wrong type"⟩])]

def all : List Preset := [python, typescript]

def ofName? (name : String) : Option Preset := all.find? (·.name = name)

end Preset

end LintGloss
