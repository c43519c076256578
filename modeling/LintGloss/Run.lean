import LintGloss.Decimal.Basic
import LintGloss.Diagnostic
import LintGloss.Invocation
import LintGloss.Text.Lines
import LintGloss.Text.Part
/-!
# Runs of linters

What an attempt to run a linter comes to.  An attempt ends with output or it fails, by
what became of the process (`Tool.attempt`); `interpret` makes a result of the output,
and `conclude` of either.  A linter that ended as it does when its work is done has run
well, whatever it says beside its findings.  If it did not, it may be that its program
is missing, and anything else is an error.
-/

namespace LintGloss

structure Output where
  stdout : String := ""
  stderr : String := ""
  /-- None if a signal ended it, or if it never ran. -/
  exitCode : Option Int := none
  notFound : Bool := false
  deriving DecidableEq, Repr, Inhabited

/-- Why an attempt has no output. -/
inductive AttemptFailure
  | start (cause : String)
  | wait (cause : String)
  | timeout (secs : Nat)
  deriving DecidableEq, Repr

/-- A number of seconds as a message shows it; nothing at all is counted in nanoseconds. -/
def durationText (secs : Nat) : String :=
  if secs = 0 then "0ns" else String.ofList (Decimal.digits secs) ++ "s"

def AttemptFailure.message : AttemptFailure → String
  | start cause => "Failed to start: " ++ cause
  | wait cause => "Failed to wait for process: " ++ cause
  | timeout secs => "Timed out after " ++ durationText secs

abbrev Attempt := Except AttemptFailure Output

/-! ## How a program ended -/

/-- The exit code of a shell that does not find a program. -/
def missingExit : Int := 127

/-- What a shell says when it does not find a program. -/
def missingMarkers : List String := ["command not found", "is not recognized"]

/-- Whether the exit code is that of a tool that did its work. -/
def Tool.endsNormally (t : Tool) (exitCode : Option Int) : Bool :=
  exitCode.any fun n => 0 ≤ n && n ≤ t.greatestNormalExit

/-- Whether the end looks like that of a shell which did not find the program.  After a
normal end what it says does not matter. -/
def Tool.isMissing (t : Tool) (exitCode : Option Int) (stderr : String) : Bool :=
  exitCode == some missingExit ||
    (!t.endsNormally exitCode &&
      missingMarkers.any fun m => Text.isPartOf m.toList stderr.toList)

/-- What became of the process of a linter. -/
inductive Ending
  /-- It could not be started, perhaps because something is missing. -/
  | unstarted (missing : Bool) (cause : String)
  /-- It was started, but its end could not be waited for. -/
  | lost (cause : String)
  /-- It did not end in time and was stopped. -/
  | stopped (secs : Nat)
  /-- It ended with an exit code or by a signal. -/
  | exited (stdout stderr : String) (exitCode : Option Int)
  deriving DecidableEq, Repr

/-- What the attempt comes to with a process that ended so. -/
def Tool.attempt (t : Tool) : Ending → Attempt
  | .unstarted true cause => .ok { stderr := cause, notFound := true }
  | .unstarted false cause => .error (.start cause)
  | .lost cause => .error (.wait cause)
  | .stopped secs => .error (.timeout secs)
  | .exited stdout stderr exitCode =>
    .ok { stdout, stderr, exitCode, notFound := t.isMissing exitCode stderr }

/-! ## Results -/

inductive Status
  | success
  | error
  | notFound
  deriving DecidableEq, Repr, Inhabited

namespace Status

def all : List Status := [success, error, notFound]

def name : Status → String
  | success => "success"
  | error => "error"
  | notFound => "not_found"

def ofName? (s : String) : Option Status := all.find? (·.name = s)

end Status

structure RunResult where
  tool : Tool
  status : Status
  violations : List Violation
  error : Option String
  command : String
  deriving DecidableEq, Repr, Inhabited

def RunResult.isFailure (r : RunResult) : Bool := r.status ≠ .success

/-- The first line of a text that is not blank, trimmed. -/
def firstLine? (s : String) : Option String :=
  ((Text.lines s.toList).map Text.trim).find? (· ≠ []) |>.map String.ofList

def exitText : Option Int → String
  | some n => "exit code " ++ String.ofList (Decimal.ofInt n)
  | none => "killed by signal"

namespace Invocation

def failed (i : Invocation) (status : Status) (error : String) : RunResult :=
  ⟨i.tool, status, [], some error, i.commandLine⟩

def missingText (i : Invocation) : String :=
  "'" ++ i.program ++ "' is not installed. Install it with: " ++ i.tool.installHint

def brokenText (i : Invocation) (o : Output) : String :=
  i.program ++ " failed (" ++ exitText o.exitCode ++ "): " ++
    (firstLine? o.stderr).getD "no error output"

/-- Where the findings are: on the other stream if there is nothing on the first. -/
def findings (o : Output) : String := if o.stdout = "" then o.stderr else o.stdout

/-- The result of an attempt that ended with output. -/
def interpret (i : Invocation) (o : Output) : RunResult :=
  if o.notFound then i.failed .notFound i.missingText
  else if i.tool.endsNormally o.exitCode then
    ⟨i.tool, .success, i.tool.read (findings o), none, i.commandLine⟩
  else i.failed .error (i.brokenText o)

def conclude (i : Invocation) : Attempt → RunResult
  | .ok o => i.interpret o
  | .error f => i.failed .error f.message

end Invocation

/-- The results of all linters, in their order, for what each attempt comes to. -/
def runAll (attempt : Invocation → Attempt) (is : List Invocation) : List RunResult :=
  is.map fun i => i.conclude (attempt i)

end LintGloss
