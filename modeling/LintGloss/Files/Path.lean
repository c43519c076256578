import LintGloss.Files.Basic
import LintGloss.Text.Utf8
/-!
# Paths

A path is a text of names between slashes.  It is walked from the root: each name
has to be that of an entry, and everything but the last has to be a directory, also
before two points, one point or nothing, so that `f/` is no path to a file `f`.  A
path that is too long or holds a zero is not walked at all.
-/

namespace LintGloss

/-- Why a path cannot be used. -/
inductive FileError
  | missing
  | present
  | notDirectory
  | isDirectory
  | nameTooLong
  | notText
  | zeroInName
  deriving DecidableEq, Repr

def FileError.message : FileError → String
  | missing => "No such file or directory (os error 2)"
  | present => "File exists (os error 17)"
  | notDirectory => "Not a directory (os error 20)"
  | isDirectory => "Is a directory (os error 21)"
  | nameTooLong => "File name too long (os error 36)"
  | notText => "stream did not contain valid UTF-8"
  | zeroInName => "file name contained an unexpected NUL byte"

namespace Path

/-- The path of a relative path in a directory; an absolute one stays as it is. -/
def join (directory path : String) : String :=
  if path.toList.head? = some '/' then path
  else if directory.toList.getLast? = some '/' then directory ++ path
  else directory ++ "/" ++ path

/-- The text cut at each slash; there is one piece more than there are slashes. -/
def cut : List Char → List (List Char)
  | [] => [[]]
  | c :: rest =>
    if c = '/' then [] :: cut rest
    else match cut rest with
      | [] => [[c]]
      | part :: more => (c :: part) :: more

def split (path : String) : List String := (cut path.toList).map String.ofList

/-- The parts of a path without the slashes at its end. -/
def stem (path : String) : List String := ((split path).reverse.dropWhile (· = "")).reverse

/-- How many octets a name can have. -/
def nameLimit : Nat := 255

/-- How many octets a path can have. -/
def limit : Nat := 4095

/-- Why a text cannot be a path at all. -/
def fault? (path : String) : Option FileError :=
  if '\x00' ∈ path.toList then some .zeroInName
  else if limit < path.utf8ByteSize then some .nameTooLong
  else none

/-- Whether a part of a path names an entry and does not stand for a directory on the
way. -/
def isName (part : String) : Bool := part ≠ "" ∧ part ≠ "." ∧ part ≠ ".."

end Path

namespace Files

/-- Goes on from a place by one part of a path. -/
def step (fs : Files) (p : Place) (part : String) : Except FileError Place :=
  match fs.holds? p with
  | none => .error .missing
  | some (.file _) => .error .notDirectory
  | some .directory =>
    if part = "" ∨ part = "." then .ok p
    else if part = ".." then .ok p.dropLast
    else if Path.nameLimit < part.utf8ByteSize then .error .nameTooLong
    else if (fs.holds? (p ++ [part])).isSome then .ok (p ++ [part])
    else .error .missing

/-- Walks the parts of a path from the root. -/
def walk (fs : Files) (parts : List String) : Except FileError Place := parts.foldlM fs.step []

/-- The place of a path in a directory.  Only the path itself has to be short enough. -/
def locateIn (fs : Files) (directory path : String) : Except FileError Place :=
  match Path.fault? path with
  | some e => .error e
  | none => fs.walk (Path.split (Path.join directory path))

/-- The place of an absolute path. -/
def locate (fs : Files) (path : String) : Except FileError Place := fs.locateIn "/" path

def hasPath (fs : Files) (path : String) : Bool := (fs.locate path).isOk

def hasDirectory (fs : Files) (path : String) : Bool :=
  match fs.locate path with
  | .ok p => fs.holds? p = some .directory
  | .error _ => false

def readText (fs : Files) (path : String) : Except FileError String := do
  match fs.holds? (← fs.locate path) with
  | some (.file content) =>
    match Text.Utf8.decode? content with
    | some s => return String.ofList s
    | none => throw .notText
  | some .directory => throw .isDirectory
  | none => throw .missing

/-- The place of a file that is written under a name in a directory, after which a slash
may follow. -/
def child (fs : Files) (directory : Place) (name : String) (slash : Bool) :
    Except FileError Place :=
  if fs.holds? directory ≠ some .directory then .error .notDirectory
  else if slash then .error .isDirectory
  else if Path.nameLimit < name.utf8ByteSize then .error .nameTooLong
  else if fs.holds? (directory ++ [name]) = some .directory then .error .isDirectory
  else .ok (directory ++ [name])

/-- The place where a file is written.  The directory has to be there, and the file need
not be; a path that can only be that of a directory is refused as one. -/
def target (fs : Files) (path : String) : Except FileError Place :=
  match Path.fault? path with
  | some e => .error e
  | none =>
    let names := Path.stem path
    match names.getLast? with
    | none => .error .isDirectory
    | some name =>
      if Path.isName name then
        (fs.walk names.dropLast).bind fun p => fs.child p name (path.toList.getLast? = some '/')
      else (fs.walk names).bind fun _ => .error .isDirectory

/-- Writes a file, which is created or replaced. -/
def write (fs : Files) (path : String) (content : List UInt8) : Except FileError Files :=
  (fs.target path).map fun p => fs.set p (.file content)

end Files

end LintGloss
