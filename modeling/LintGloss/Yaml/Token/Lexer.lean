import LintGloss.Yaml.Token.Scalar
import LintGloss.Yaml.Token.Tag
/-!
# Reading YAML tokens

The lexer keeps the columns of the blocks that are open, and for each level of
brackets and braces the place of the last thing that may turn out to be a key.  A key
is known for one only at its colon: then `key`, and before it the start of a mapping
if one starts, are put in front of the tokens that it is made of.  A colon comes too
late on another line, or more than 1024 octets on.

Inside of brackets and braces columns do not count.
-/

namespace LintGloss.Yaml

/-- The place of something that may be a key. -/
structure KeyPlace where
  tokens : Nat
  index : Nat
  line : Nat
  column : Nat
  /-- Whether it can be nothing but a key, because its column is that of its block. -/
  required : Bool
  deriving DecidableEq, Repr

/-- Whether a colon would come too late for the key. -/
def KeyPlace.isStale (k : KeyPlace) (s : Spot) : Bool :=
  k.line < s.line || k.index + 1024 < s.index

structure Lexer where
  /-- The tokens so far, last first. -/
  tokens : List Token := []
  /-- The column of the innermost block, or one before the first column. -/
  indent : Int := -1
  /-- The columns of the blocks around it, innermost first. -/
  outer : List Int := []
  /-- Whether a key may stand here without a question mark. -/
  keyAllowed : Bool := true
  /-- What may be a key on each level of brackets, innermost first; the last is outside
  of all of them. -/
  keys : List (Option KeyPlace) := [none]

namespace Lexer

def inFlow (x : Lexer) : Bool := 1 < x.keys.length

def push (x : Lexer) (t : Token) : Lexer := { x with tokens := t :: x.tokens }

/-- Puts a token behind the first so many tokens. -/
def insert (x : Lexer) (t : Token) (behind : Nat) : Lexer :=
  let later := x.tokens.length - behind
  { x with tokens := x.tokens.take later ++ t :: x.tokens.drop later }

def allowKey (x : Lexer) (b : Bool) : Lexer := { x with keyAllowed := b }

/-! ## Blocks -/

/-- Opens a block at a deeper column; its first token is put behind the first so many
tokens. -/
def openBlock (x : Lexer) (column : Nat) (t : Token) (behind : Nat) : Lexer :=
  if x.inFlow || (column : Int) ≤ x.indent then x
  else { x.insert t behind with indent := column, outer := x.indent :: x.outer }

def openBlockHere (x : Lexer) (column : Nat) (t : Token) : Lexer :=
  x.openBlock column t x.tokens.length

/-- Ends the blocks that are deeper than a column. -/
def endBlocks (column : Int) (tokens : List Token) (indent : Int) :
    List Int → List Token × Int × List Int
  | [] => (tokens, indent, [])
  | i :: outer =>
    if column < indent then endBlocks column (.blockEnd :: tokens) i outer
    else (tokens, indent, i :: outer)

/-- Closes the blocks that are deeper than a column. -/
def closeBlocks (x : Lexer) (column : Int) : Lexer :=
  if x.inFlow then x
  else
    let (tokens, indent, outer) := endBlocks column x.tokens x.indent x.outer
    { x with tokens, indent, outer }

/-! ## Keys -/

/-- Gives up what may be a key on this level; fails if it had to be one. -/
def dropKey (x : Lexer) : Option Lexer :=
  match x.keys with
  | some k :: keys => if k.required then none else some { x with keys := none :: keys }
  | _ => some x

/-- Notes that what begins here may be a key. -/
def noteKey (x : Lexer) (s : Spot) : Option Lexer :=
  if !x.keyAllowed then some x
  else do
    let x ← x.dropKey
    let k : KeyPlace :=
      ⟨x.tokens.length, s.index, s.line, s.column, !x.inFlow && x.indent == s.column⟩
    some { x with keys := some k :: x.keys.tail }

/-- Gives up all keys for which a colon would come too late here. -/
def dropStale (x : Lexer) (s : Spot) : Option Lexer := do
  let keys ← x.keys.mapM fun
    | some k => if !k.isStale s then some (some k) else if k.required then none else some none
    | none => some none
  some { x with keys }

/-! ## Tokens -/

/-- Whether a character can be skipped between tokens.  A tab counts as a blank only where
no block can begin, and a byte order mark only at the start of a line; what follows the
mark does not stand at the start any more. -/
def canSkip (x : Lexer) (s : Spot) : Bool :=
  s.char == ' ' || (s.char == '\t' && (x.inFlow || !x.keyAllowed)) ||
    (s.char == byteOrderMark && s.column == 0)

/-- Skips blanks, comments and line breaks. -/
def skip (inComment : Bool) (x : Lexer) : List Spot → Lexer × List Spot
  | [] => (x, [])
  | s :: rest =>
    if isBreak s.char then skip false (if x.inFlow then x else x.allowKey true) rest
    else if inComment then skip true x rest
    else if x.canSkip s then skip false x rest
    else if s.char = '#' then skip true x rest
    else (x, s :: rest)

/-- A token that belongs to no block: a directive or a mark between documents. -/
def outside (x : Lexer) (t : Token) : Option Lexer := do
  let x ← (x.closeBlocks (-1)).dropKey
  some ((x.allowKey false).push t)

/-- A bracket or a brace opens here. -/
def openFlow (x : Lexer) (s : Spot) (t : Token) : Option Lexer := do
  let x ← x.noteKey s
  some (({ x with keys := none :: x.keys }.allowKey true).push t)

/-- A bracket or a brace closes here.  Outside of all of them there is no level to
leave. -/
def closeFlow (x : Lexer) (t : Token) : Option Lexer := do
  let x ← x.dropKey
  let x := if x.inFlow then { x with keys := x.keys.tail } else x
  some ((x.allowKey false).push t)

def comma (x : Lexer) : Option Lexer := do
  let x ← x.dropKey
  some ((x.allowKey true).push .comma)

/-- The hyphen of an item. -/
def entry (x : Lexer) (s : Spot) : Option Lexer :=
  if !x.inFlow && !x.keyAllowed then none
  else do
    let x ← (x.openBlockHere s.column .blockSeqStart).dropKey
    some ((x.allowKey true).push .entry)

/-- The question mark of a key. -/
def explicitKey (x : Lexer) (s : Spot) : Option Lexer :=
  if !x.inFlow && !x.keyAllowed then none
  else do
    let x ← (x.openBlockHere s.column .blockMapStart).dropKey
    some ((x.allowKey !x.inFlow).push .key)

def markKey (x : Lexer) (k : KeyPlace) : Lexer :=
  (x.insert .key k.tokens).openBlock k.column .blockMapStart k.tokens

/-- The colon of a value. -/
def value (x : Lexer) (s : Spot) : Option Lexer :=
  match x.keys with
  | some k :: keys => some (({ x.markKey k with keys := none :: keys }.allowKey false).push .value)
  | _ =>
    if !x.inFlow && !x.keyAllowed then none
    else some (((x.openBlockHere s.column .blockMapStart).allowKey !x.inFlow).push .value)

/-- A token that can be a key or stand before one, and what follows it. -/
def item (x : Lexer) (s : Spot) (r : Option (Token × List Spot)) :
    Option (Lexer × List Spot) := do
  let x ← x.noteKey s
  let (t, rest) ← r
  some ((x.allowKey false).push t, rest)

/-- A scalar that is written as a block of lines. -/
def block (x : Lexer) (folded : Bool) (rest : List Spot) : Option (Lexer × List Spot) := do
  if x.inFlow then none
  else
    let x ← x.dropKey
    let (text, rest) ← Token.block? folded x.indent rest
    some ((x.allowKey true).push (.scalar text false), rest)

/-- A plain scalar.  If line breaks follow it, a key may stand after them. -/
def plain (x : Lexer) (s : Spot) (rest : List Spot) : Option (Lexer × List Spot) := do
  let x ← x.noteKey s
  let (text, gap, rest) ← Token.plainFrom ⟨x.inFlow, x.indent + 1⟩ [] (s :: rest)
  some ((x.allowKey (gap.any isBreak)).push (.scalar text true), rest)

/-- Reads the token that begins at a spot. -/
def next (x : Lexer) (s : Spot) (rest : List Spot) : Option (Lexer × List Spot) :=
  if s.column = 0 ∧ s.char = '%' then do
    let (t, rest) ← Token.directive? rest
    some (← x.outside t, rest)
  else if atDocumentMark (s :: rest) then do
    some (← x.outside (if s.char = '-' then .documentStart else .documentEnd), rest.drop 2)
  else match s.char with
    | '[' => (x.openFlow s .flowSeqStart).map (·, rest)
    | '\x7b' => (x.openFlow s .flowMapStart).map (·, rest)
    | ']' => (x.closeFlow .flowSeqEnd).map (·, rest)
    | '\x7d' => (x.closeFlow .flowMapEnd).map (·, rest)
    | ',' => x.comma.map (·, rest)
    | '-' => if atWordEnd rest then (x.entry s).map (·, rest) else x.plain s rest
    | '?' => if x.inFlow || atWordEnd rest then (x.explicitKey s).map (·, rest) else x.plain s rest
    | ':' => if x.inFlow || atWordEnd rest then (x.value s).map (·, rest) else x.plain s rest
    | '*' => x.item s ((Token.name? rest).map fun r => (.alias r.1, r.2))
    | '&' => x.item s ((Token.name? rest).map fun r => (.anchor r.1, r.2))
    | '!' => x.item s (Token.tag? x.inFlow (s :: rest))
    | '|' => x.block false rest
    | '>' => x.block true rest
    | '\'' =>
      x.item s ((Token.quotedFrom false (.text []) rest).map fun r => (.scalar r.1 false, r.2))
    | '"' =>
      x.item s ((Token.quotedFrom true (.text []) rest).map fun r => (.scalar r.1 false, r.2))
    | '\t' | '#' | '%' | '@' | '\x60' => none
    | _ => x.plain s rest

/-- The tokens when the text is over. -/
def finish (x : Lexer) : Option (List Token) := do
  let x ← (x.closeBlocks (-1)).dropKey
  some x.tokens.reverse

/-- Reads tokens to the end.  Each takes a spot at least, so one more than the number of
spots is enough fuel. -/
def run : Nat → Lexer → List Spot → Option (List Token)
  | 0, _, _ => none
  | fuel + 1, x, s =>
    match x.skip false s with
    | (x, []) => x.finish
    | (x, s :: rest) => do
      let x ← x.dropStale s
      let (x, rest) ← (x.closeBlocks s.column).next s rest
      run fuel x rest

end Lexer

def lex? (s : List Char) : Option (List Token) := do
  let spots ← Spot.ofText? s
  Lexer.run (spots.length + 1) {} spots

end LintGloss.Yaml
