import LintGloss.Files.Path
import LintGloss.Keyed
import LintGloss.Run
/-!
# Machines

Where linters run: files, and programs that are found by their names.  What a
program does is fixed beforehand, and so is what an attempt to run it comes to.
-/

namespace LintGloss

/-- What a program does: it waits, writes, and ends with an exit code or by a signal. -/
structure Program where
  stdout : List UInt8 := []
  stderr : List UInt8 := []
  exitCode : Option Int := some 0
  pauseMillis : Nat := 0
  /-- Whether it may be started. -/
  executable : Bool := true
  deriving DecidableEq, Repr, Inhabited

structure Machine where
  files : Files := {}
  /-- The programs by their names; of two with one name the later counts. -/
  programs : List (String × Program) := []
  deriving Repr, Inhabited

/-- The end of a process that could not be started because of a file. -/
def startFailure (e : FileError) : Ending := .unstarted (e = .missing) e.message

/-- Why a program that is there does not start. -/
def deniedText : String := "Permission denied (os error 13)"

/-- Why no program starts with a zero in its arguments. -/
def zeroText : String := "nul byte found in provided data"

/-- Why no program starts with an argument that is too long. -/
def tooLongText : String := "Argument list too long (os error 7)"

/-- How many octets an argument can have. -/
def argumentLimit : Nat := 131071

/-- The end of a program that has been started for an invocation, with all that it wrote
as text. -/
def Program.finish (p : Program) (i : Invocation) : Ending :=
  let exited := .exited (String.ofList (Text.Utf8.decodeLossy p.stdout))
    (String.ofList (Text.Utf8.decodeLossy p.stderr)) p.exitCode
  match i.timeoutSecs with
  | some secs => if secs * 1000 < p.pauseMillis then .stopped secs else exited
  | none => exited

namespace Machine

/-- Starts the program of a name.  A name with a slash is a path, and no file at a path is
executable.  Any other name is looked for in a directory, where points stand for
directories, and no directory can be started. -/
def start (m : Machine) (cwd : String) (i : Invocation) : Ending :=
  if i.program.contains '/' then
    match m.files.locateIn cwd i.program with
    | .ok _ => .unstarted false deniedText
    | .error e => startFailure e
  else if Path.nameLimit < i.program.utf8ByteSize then startFailure .nameTooLong
  else if i.program = "." ∨ i.program = ".." then .unstarted false deniedText
  else match lastOf? i.program m.programs with
    | none => startFailure .missing
    | some p =>
      if !p.executable then .unstarted false deniedText
      else if i.args.any fun a => argumentLimit < a.utf8ByteSize then .unstarted false tooLongText
      else p.finish i

/-- What becomes of the process in a directory.  The directory is entered first. -/
def ending (m : Machine) (cwd : String) (i : Invocation) : Ending :=
  if (cwd :: i.program :: i.args).any (·.contains '\x00') then .unstarted false zeroText
  else match m.files.locate cwd with
    | .error e => startFailure e
    | .ok place =>
      if m.files.holds? place = some .directory then m.start cwd i
      else startFailure .notDirectory

/-- What an attempt in a directory comes to. -/
def attempt (m : Machine) (cwd : String) (i : Invocation) : Attempt :=
  i.tool.attempt (m.ending cwd i)

end Machine

end LintGloss
