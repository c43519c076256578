import LintGloss.Json.Basic
import LintGloss.Run
/-!
# Reports

What a run of all linters is reported as: the violations with their rules, how each
linter did, and a summary that counts.
-/

namespace LintGloss

structure LinterSummary where
  name : String
  status : Status
  violationCount : Nat
  error : Option String
  deriving DecidableEq, Repr

structure Summary where
  total : Nat
  withRule : Nat
  withoutRule : Nat
  /-- The tools that have violations in the order of their names, and how many each. -/
  byTool : List (Tool × Nat)
  /-- How many different files have violations. -/
  files : Nat
  deriving DecidableEq, Repr

structure Report where
  violations : List Glossed
  /-- The names of the linters that were detected. -/
  detected : List String
  results : List LinterSummary
  summary : Summary
  deriving DecidableEq, Repr

/-- The tools in the order of their names. -/
def Tool.alphabetic : List Tool := [eslint, pyright, ruff, typescript]

namespace Summary

def countOf (t : Tool) (gs : List Glossed) : Nat := gs.countP (·.violation.tool = t)

def ofGlossed (gs : List Glossed) : Summary where
  total := gs.length
  withRule := gs.countP (·.semantic.isSome)
  withoutRule := gs.countP (·.semantic.isNone)
  byTool := (Tool.alphabetic.map fun t => (t, countOf t gs)).filter (0 < ·.2)
  files := (gs.map (·.violation.file)).eraseDups.length

end Summary

def LinterSummary.ofResult (r : RunResult) : LinterSummary :=
  ⟨r.tool.name, r.status, r.violations.length, r.error⟩

def Report.assemble (gs : List Glossed) (results : List RunResult) (detected : List String) :
    Report :=
  ⟨gs, detected, results.map .ofResult, .ofGlossed gs⟩

/-! ## Reports as JSON -/

def Rule.toJson (r : Rule) : Json :=
  .obj [("illegal", .str r.illegal), ("legal", .str r.legal), ("why", .str r.why)]

def Violation.members (v : Violation) : List (String × Json) :=
  [("file", .str v.file), ("line", .nat v.line), ("column", .nat v.column),
    ("tool", .str v.tool.name), ("code", .str v.code), ("message", .str v.message)]

/-- The members of the violation, and its rule beside them. -/
def Glossed.toJson (g : Glossed) : Json :=
  .obj (g.violation.members ++ [("semantic", .ofOption Rule.toJson g.semantic)])

/-- An error is a member only if there is one. -/
def LinterSummary.toJson (s : LinterSummary) : Json :=
  .obj ([("name", .str s.name), ("status", .str s.status.name),
      ("violations_count", .nat s.violationCount)] ++
    (s.error.map fun e => ("error", Json.str e)).toList)

def Summary.toJson (s : Summary) : Json :=
  .obj [("total", .nat s.total), ("with_semantic", .nat s.withRule),
    ("without_semantic", .nat s.withoutRule),
    ("by_tool", .obj (s.byTool.map fun e => (e.1.name, .nat e.2))),
    ("files_affected", .nat s.files)]

def Report.toJson (r : Report) : Json :=
  .obj [("violations", .arr (r.violations.map (·.toJson))),
    ("linters", .obj [("detected", .strings r.detected),
      ("results", .arr (r.results.map (·.toJson)))]),
    ("summary", r.summary.toJson)]

end LintGloss
