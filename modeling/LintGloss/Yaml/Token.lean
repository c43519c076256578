/-!
# YAML tokens

The pieces of a YAML text.  Some are written with a character of their own.  Others
stand for a change of indentation: `blockSeqStart` and `blockMapStart` are where a
block becomes deeper, and `blockEnd` is where it is left; and `key` stands in front
of a key whether or not it is written with a question mark.
-/

namespace LintGloss.Yaml

inductive Token
  | version (major minor : Nat)
  | handle (name : List Char) (uri : List UInt8)
  | documentStart
  | documentEnd
  | blockSeqStart
  | blockMapStart
  | blockEnd
  | flowSeqStart
  | flowSeqEnd
  | flowMapStart
  | flowMapEnd
  | entry
  | comma
  | key
  | value
  | alias (name : List Char)
  | anchor (name : List Char)
  | tag (handle : List Char) (suffix : List UInt8)
  | scalar (text : List Char) (plain : Bool)
  deriving DecidableEq, Repr

end LintGloss.Yaml
