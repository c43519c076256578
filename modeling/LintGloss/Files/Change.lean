import LintGloss.Files.Path
/-!
# Changing files

Making a file with all the directories above it, and removing what is at a path.  A
directory that is made on the way stays, also if what it was made for fails; so a
change gives the files after it whatever it comes to.
-/

namespace LintGloss

/-- The path itself, and the paths of the directories above it, innermost first.  In those
above it the parts that stand for the directory before them are left out. -/
def Path.lineage (path : String) : List String :=
  let names := (split path).filter fun part => part ≠ "" ∧ part ≠ "."
  path :: (List.range names.length).reverse.map fun n => "/" ++ "/".intercalate (names.take n)

namespace Files

/-- The files with a new directory at a path.  What stands for a directory that is there
cannot be made. -/
def withDirectory (fs : Files) (path : String) : Except FileError Files :=
  match Path.fault? path with
  | some e => .error e
  | none => do
    let names := Path.stem path
    let p ← fs.walk names.dropLast
    let name := names.getLast?.getD ""
    if fs.holds? p ≠ some .directory then throw .notDirectory
    if !Path.isName name then throw .present
    if Path.nameLimit < name.utf8ByteSize then throw .nameTooLong
    if (fs.holds? (p ++ [name])).isSome then throw .present
    return fs.set (p ++ [name]) .directory

/-- Removes what is at a path, if anything.  A directory goes with all that is below it; but
a path that ends in points only empties its directory. -/
def remove (fs : Files) (path : String) : Files :=
  match fs.locate path with
  | .error _ => fs
  | .ok p =>
    if Path.isName ((Path.stem path).getLast?.getD "") then fs.erase p else fs.eraseBelow p

end Files

/-- A change of files that can fail. -/
abbrev FileChange := ExceptT FileError (StateM Files)

namespace FileChange

def makeDirectory (path : String) : FileChange Unit := do
  set (← ofExcept ((← get).withDirectory path))

/-- Makes the first directory of a lineage, after the others as far as they are missing. -/
def makeFirst : List String → FileChange Unit
  | [] => throw .missing
  | path :: above => do
    try makeDirectory path
    catch
      | .missing => do
        makeFirst above
        settle path
      | e => unless (← get).hasDirectory path do throw e
where
  /-- Makes a directory that may be there. -/
  settle (path : String) : FileChange Unit := do
    try makeDirectory path
    catch e => unless (← get).hasDirectory path do throw e

/-- Makes a directory and those above it, as far as they are missing. -/
def makeDirectories (path : String) : FileChange Unit := makeFirst (Path.lineage path)

/-- Writes a file, after the directories above it as far as they are missing. -/
def writeFile (path : String) (content : List UInt8) : FileChange Unit := do
  match (Path.lineage path).tail with
  | [] => pure ()
  | above => makeFirst above
  set (← ofExcept ((← get).write path content))

def put (path : String) : Entry → FileChange Unit
  | .file content => writeFile path content
  | .directory => makeDirectories path

end FileChange

end LintGloss
