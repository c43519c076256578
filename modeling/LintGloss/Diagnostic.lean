import LintGloss.Diagnostic.Eslint
import LintGloss.Diagnostic.Pyright
import LintGloss.Diagnostic.Ruff
import LintGloss.Diagnostic.Tsc
/-!
# Reading the output of a tool

Every reading is total: an output that makes no sense has no violations, and one
odd diagnostic does not hide the others.
-/

namespace LintGloss

def Tool.read : Tool → String → List Violation
  | .ruff => Diagnostic.Ruff.read
  | .pyright => Diagnostic.Pyright.read
  | .eslint => Diagnostic.Eslint.read
  | .typescript => Diagnostic.Tsc.read

end LintGloss
