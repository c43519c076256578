import LintGloss.Decimal.Binary64
import LintGloss.Yaml.Basic
/-!
# What can be wrong with a configuration

The faults that a well-formed document can have, and what is said of each.
-/

namespace LintGloss

/-! ## Faults of an override -/

/-- What the value of a field has to be. -/
inductive Expected
  | boolean
  | string
  | sequence
  | wholeNumber
  | fieldName
  deriving DecidableEq, Repr

def Expected.text : Expected → String
  | boolean => "a boolean"
  | string => "a string"
  | sequence => "a sequence"
  | wholeNumber => "u64"
  | fieldName => "field identifier"

/-- A real in a message: the shortest decimal, written out. -/
def Yaml.plainRealText : Binary64 → List Char
  | .nan => "NaN".toList
  | .infinite true => "-inf".toList
  | .infinite false => "inf".toList
  | .finite negative m q => (Binary64.shortest .up negative m q).positional

/-- What a message says that a value is; tags are not mentioned. -/
def Yaml.kindText : Yaml → String
  | null => "unit value"
  | bool b => "boolean `" ++ boolText b ++ "`"
  | int n => "integer `" ++ String.ofList (Decimal.ofInt n) ++ "`"
  | real x => "floating point `" ++ String.ofList (plainRealText x) ++ "`"
  | str s => "string " ++ Text.quoted s
  | seq _ => "sequence"
  | map _ => "map"
  | tagged _ v => kindText v

inductive OverrideFault
  | wrongType (got : Yaml) (want : Expected)
  /-- An integer where only natural numbers can stand. -/
  | negative (n : Int)
  | repeated (field : String)
  deriving Repr

def OverrideFault.message : OverrideFault → String
  | wrongType got want => "invalid type: " ++ got.kindText ++ ", expected " ++ want.text
  | negative n =>
    "invalid value: " ++ (Yaml.int n).kindText ++ ", expected " ++ Expected.wholeNumber.text
  | repeated field => "duplicate field `" ++ field ++ "`"

/-! ## Faults of a document -/

inductive ConfigFault
  | root
  | sectionShape (name : String)
  | key (got : Yaml)
  | linterShape (name : String)
  | override (name : String) (fault : OverrideFault)
  | toolShape (tool : String)
  | ruleShape (tool code : String)
  | blankField (tool code field : String)
  | missingField (tool code field : String)
  deriving Repr

def ConfigFault.message : ConfigFault → String
  | root => "Config must be a mapping"
  | sectionShape name => "'" ++ name ++ "' must be a mapping"
  | key got => "Config keys must be strings, got " ++ got.shown
  | linterShape name => "Linter '" ++ name ++ "' must be a mapping"
  | override name fault => "Linter '" ++ name ++ "' override is invalid: " ++ fault.message
  | toolShape tool => "Rules for '" ++ tool ++ "' must be a mapping"
  | ruleShape tool code => "Rule '" ++ tool ++ "/" ++ code ++ "' must be a mapping"
  | blankField tool code field =>
    "Rule '" ++ tool ++ "/" ++ code ++ "' has empty '" ++ field ++ "'"
  | missingField tool code field =>
    "Rule '" ++ tool ++ "/" ++ code ++ "' must have '" ++ field ++ "' string"

inductive ConfigError
  | unreadable (path cause : String)
  | malformed
  | invalid (fault : ConfigFault)
  deriving Repr

def ConfigError.message : ConfigError → String
  | unreadable path cause => "Failed to read " ++ path ++ ": " ++ cause
  | malformed => "Failed to parse lintent.yaml: malformed YAML"
  | invalid fault => fault.message

end LintGloss
