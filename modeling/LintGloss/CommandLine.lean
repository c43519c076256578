import LintGloss.Command
/-!
# Command lines

What can stand on a command line: a command, and settings before and after it.  A
setting is known by a long name, and some by a letter too; it is a switch, or it takes
a value.
-/

namespace LintGloss

structure CommandLine where
  command : Command
  logLevel : String
  deriving DecidableEq, Repr

/-- Why a command line has no command to execute; two of the reasons are that it asks for
something else. -/
inductive UsageError
  | unknownArgument
  | invalidValue
  | unknownCommand
  /-- A setting stands twice. -/
  | conflict
  | needlessValue
  | missingCommand
  /-- Nothing at all has been asked for. -/
  | nothing
  | help
  | version
  deriving DecidableEq, Repr

inductive CommandWord
  | run
  | init
  | validate
  | list
  deriving DecidableEq, Repr

/-- The part of a command line: before its command, or after it. -/
inductive Level
  | top
  | after (word : CommandWord)
  deriving DecidableEq, Repr

inductive Setting
  | config
  | tool
  | preset
  | override
  | pretty
  | logLevel
  | help
  | version
  deriving DecidableEq, Repr

namespace Setting

def takesValue : Setting → Bool
  | config | tool | preset | logLevel => true
  | override | pretty | help | version => false

def longName : Setting → String
  | config => "config"
  | tool => "tool"
  | preset => "preset"
  | override => "override"
  | pretty => "pretty"
  | logLevel => "log-level"
  | help => "help"
  | version => "version"

/-- Whether a value can be that of the setting.  A path must not be empty. -/
def allows (s : Setting) (value : String) : Bool :=
  match s with
  | config => value ≠ ""
  | _ => true

end Setting

namespace CommandWord

def ofString? : String → Option CommandWord
  | "run" => some run
  | "init" => some init
  | "validate" => some validate
  | "list" => some list
  | _ => none

def settings : CommandWord → List (Setting × Option Char)
  | run => [(.config, some 'c'), (.tool, some 't'), (.pretty, some 'p')]
  | init => [(.preset, none), (.config, none), (.override, none), (.pretty, some 'p')]
  | validate | list => [(.config, some 'c'), (.pretty, some 'p')]

end CommandWord

namespace Level

/-- The settings of a level, with their letters. -/
def settings : Level → List (Setting × Option Char)
  | top => [(.logLevel, none), (.help, some 'h'), (.version, some 'V')]
  | after word => word.settings ++ [(.logLevel, none), (.help, some 'h')]

def ofLongName? (l : Level) (name : String) : Option Setting :=
  (l.settings.find? (·.1.longName = name)).map (·.1)

def ofLetter? (l : Level) (c : Char) : Option Setting :=
  (l.settings.find? (·.2 = some c)).map (·.1)

end Level

def helpWord : String := "help"

def isCommandWord (word : String) : Bool :=
  (CommandWord.ofString? word).isSome || word == helpWord

end LintGloss
