import LintGloss.Console
/-!
# The command line

The program on a real directory.  The files that a command can look at are read
first, the pure program decides, and what has changed is written back.  No processes
can be started from here: each linter counts as one that does not start.
-/

namespace LintGloss.Main

/-- Why no linter starts. -/
def cause : String := "Operation not supported (os error 95)"

/-- The absolute path of a place. -/
def pathOf (p : Place) : String := "/" ++ "/".intercalate p

/-- Notes what is at a place. -/
def observe (fs : Files) (p : Place) : IO Files := do
  let path := pathOf p
  try
    return fs.set p (.file (← IO.FS.readBinFile path).toList)
  catch _ =>
    try
      let _ ← IO.FS.realPath path
      return fs.set p .directory
    catch _ => return fs

/-- Notes what is on the way to a path. -/
def observePath (fs : Files) (path : String) : IO Files := do
  let mut fs := fs
  let mut p : Place := []
  for part in Path.split path do
    if part = ".." then p := p.dropLast
    else if Path.isName part then
      p := p ++ [part]
      if (fs.holds? p).isNone then fs ← observe fs p
  return fs

/-- The paths that the words of a command line may speak of, and those that are looked for
anyway. -/
def pathsOf (cwd : String) (words : List String) : List String :=
  let values := match CommandLine.parse none words with
    | .ok ⟨.init config .., _⟩ => [config]
    | .ok ⟨.run (some config) .., _⟩ | .ok ⟨.validate (some config) _, _⟩
    | .ok ⟨.list (some config) _, _⟩ => [config]
    | _ => []
  let names := Config.fileName :: Detection.projectFile :: Detection.packageFile ::
    Tool.all.flatMap Detection.ownFiles
  (values ++ names).map (Path.join cwd)

/-- Writes the files that are new or different. -/
def writeBack (old new : Files) : IO Unit := do
  for (p, e) in new.entries do
    match e with
    | .file content =>
      if old.holds? p ≠ some e then IO.FS.writeBinFile (pathOf p) ⟨content.toArray⟩
    | .directory => pure ()

/-- Runs the program in the directory where it was started. -/
def run (words : List String) : IO UInt32 := do
  let cwd := (← IO.currentDir).toString
  let files ← (pathsOf cwd words).foldlM observePath {}
  let environment ← IO.getEnv "LINTENT_LOG"
  let (exit, after) :=
    Console.run files cwd (fun _ => .error (.start cause)) environment words
  try
    writeBack files after
    IO.print exit.stdout
    return exit.code.toUInt32
  catch e =>
    IO.println (Command.text false (.error (.unwritable cwd (toString e))))
    return 1

end LintGloss.Main

def main (words : List String) : IO UInt32 := LintGloss.Main.run words
