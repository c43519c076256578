import LintGloss.Console
import LintGloss.Files.Change
/-!
# Sessions

Commands that are given one after another in one directory of a machine, while files
and programs change between them.  A directory that is removed is lost for good: to
make another at its path does not bring it back.
-/

namespace LintGloss

structure Session where
  machine : Machine
  /-- The path of the directory in which commands are given, unless it is lost. -/
  directory : Option String
  deriving Repr, Inhabited

namespace Session

def execute (s : Session) (c : Command) : Except Failure Reply × Session :=
  match s.directory with
  | none => (.error (.noDirectory FileError.missing.message), s)
  | some cwd =>
    let (r, machine) := s.machine.execute cwd c
    (r, { s with machine })

def change {α : Type} (s : Session) (x : FileChange α) : Except FileError α × Session :=
  let (r, files) := x.run.run s.machine.files
  (r, { s with machine := { s.machine with files } })

/-- Removes what is at a path, which may be the directory of the session. -/
def remove (s : Session) (path : String) : Session :=
  let files := s.machine.files.remove path
  ⟨{ s.machine with files }, s.directory.filter files.hasDirectory⟩

/-- Puts other programs in the place of those that are there. -/
def replacePrograms (s : Session) (programs : List (String × Program)) : Session :=
  { s with machine := { s.machine with programs } }

end Session

end LintGloss
