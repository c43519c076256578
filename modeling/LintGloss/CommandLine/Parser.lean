import LintGloss.CommandLine
/-!
# Reading command lines

Words are read from left to right.  A setting that waits for its value takes the next
word that does not begin with a hyphen, or that is only a hyphen.  Whether it may have
that value is settled when the next setting comes or the words are over; but a word
that nothing is known of ends the reading at once.
-/

namespace LintGloss

structure Settings where
  /-- The settings with their values; a switch has an empty one. -/
  given : List (Setting × String) := []
  /-- The last setting if it is not settled yet, with its value if there is one. -/
  pending : Option (Setting × Option String) := none
  deriving DecidableEq, Repr

namespace Settings

def value? (r : Settings) (s : Setting) : Option String := r.given.lookup s

def has (r : Settings) (s : Setting) : Bool := (r.value? s).isSome

def isWaiting (r : Settings) : Bool :=
  match r.pending with
  | some (_, none) => true
  | _ => false

/-- Adds a setting, which must be new. -/
def add (r : Settings) (s : Setting) (value : String) : Except UsageError Settings :=
  if r.has s then .error .conflict
  else if s.allows value then .ok { r with given := (s, value) :: r.given }
  else .error .invalidValue

def settle (r : Settings) : Except UsageError Settings :=
  match r.pending with
  | none => .ok r
  | some (_, none) => .error .invalidValue
  | some (s, some value) => { r with pending := none }.add s value

/-- Reads a setting, perhaps with a value in the same word. -/
def take (r : Settings) (s : Setting) (attached : Option String) : Except UsageError Settings := do
  let r ← r.settle
  match s, attached with
  | .help, _ => throw .help
  | .version, _ => throw .version
  | s, some value => r.add s value
  | s, none => if s.takesValue then return { r with pending := some (s, none) } else r.add s ""

/-- Reads a word that begins with two hyphens, without them. -/
def takeLong (l : Level) (r : Settings) (word : List Char) : Except UsageError Settings :=
  let (name, rest) := word.span (· ≠ '=')
  match l.ofLongName? (String.ofList name) with
  | none => .error .unknownArgument
  | some s =>
    match rest with
    | [] => r.take s none
    | _ :: value =>
      if s.takesValue then r.take s (some (String.ofList value)) else .error .needlessValue

/-- Reads the letters of a word that begins with one hyphen.  What follows the letter of a
setting with a value is that value, perhaps after an equals sign. -/
def takeLetters (l : Level) (r : Settings) : List Char → Except UsageError Settings
  | [] => .ok r
  | c :: rest =>
    match l.ofLetter? c with
    | none => .error .unknownArgument
    | some s =>
      if s.takesValue then
        match rest with
        | [] => r.take s none
        | '=' :: value | value => r.take s (some (String.ofList value))
      else (r.take s none).bind fun r => takeLetters l r rest

/-- Gives the setting that waits a value. -/
def fill (r : Settings) (value : String) : Settings :=
  { r with pending := r.pending.map fun p => (p.1, some value) }

end Settings

/-- What is wrong with a word that stands where nothing can. -/
def strayWord (l : Level) (afterHyphens : Bool) (word : String) : UsageError :=
  if l = .top ∧ !(afterHyphens && isCommandWord word) then .unknownCommand else .unknownArgument

/-- Reads the words of a level.  Before the command, the reading ends at its word; the
result holds that word and the words after it.  After two hyphens alone, no setting can
come. -/
def readWords (l : Level) (afterHyphens : Bool) (r : Settings) :
    List String → Except UsageError (Settings × Option (String × List String))
  | [] => .ok (r, none)
  | word :: rest =>
    if afterHyphens then .error (strayWord l true word)
    else if l = .top ∧ !r.isWaiting ∧ isCommandWord word then .ok (r, some (word, rest))
    else match word.toList with
      | ['-', '-'] => readWords l true r rest
      | '-' :: '-' :: name => (r.takeLong l name).bind fun r => readWords l false r rest
      | '-' :: c :: letters =>
        (r.takeLetters l (c :: letters)).bind fun r => readWords l false r rest
      | _ =>
        if r.isWaiting then readWords l false (r.fill word) rest
        else .error (strayWord l false word)

namespace CommandLine

def defaultLogLevel : String := "warn"

def commandOf (r : Settings) : CommandWord → Command
  | .run => .run (r.value? .config) (r.value? .tool) (r.has .pretty)
  | .init =>
    .init ((r.value? .config).getD Config.fileName)
      ((r.value? .preset).getD Preset.python.name) (r.has .override) (r.has .pretty)
  | .validate => .validate (r.value? .config) (r.has .pretty)
  | .list => .list (r.value? .config) (r.has .pretty)

/-- What the words after the one for help come to: each has to be a command of the one
before it, and commands have none. -/
def helpOn : List String → UsageError
  | [] => .help
  | [word] => if isCommandWord word then .help else .unknownCommand
  | _ => .unknownCommand

/-- What a command line without a command comes to. -/
def withoutCommand (environment : Option String) (r : Settings) : UsageError :=
  match r.settle with
  | .error e => e
  | .ok r => if r.has .logLevel || environment.isSome then .missingCommand else .nothing

/-- Reads the words after the name of a program.  How much is logged can be said after the
command, before it, or in the environment, and the first of these counts. -/
def parse (environment : Option String) (words : List String) :
    Except UsageError CommandLine := do
  match ← readWords .top false {} words with
  | (before, none) => throw (withoutCommand environment before)
  | (before, some (word, rest)) =>
    match CommandWord.ofString? word with
    | none => throw (helpOn rest)
    | some command =>
      let (after, _) ← readWords (.after command) false {} rest
      let after ← after.settle
      let before ← before.settle
      let logLevel := after.value? .logLevel <|> before.value? .logLevel <|> environment
      return ⟨commandOf after command, logLevel.getD defaultLogLevel⟩

end CommandLine

end LintGloss
