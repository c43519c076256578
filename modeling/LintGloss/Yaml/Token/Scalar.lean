import LintGloss.Text.Digit
import LintGloss.Yaml.Spot
/-!
# Reading scalars

The three ways to write a scalar: plain, between quotes, and as a block of lines.
In the first two, a *gap* is a run of blanks and line breaks inside of the scalar.  A
gap on one line stays as it is.  In one with line breaks the blanks go away, a
single line break becomes a space, and of several all but the first remain.
-/

namespace LintGloss.Yaml.Token

/-- Line breaks as they are read: one that stands alone is a space, and the first of
several is dropped.  Separators are never dropped. -/
def fold : List Char → List Char
  | ['\n'] => [' ']
  | '\n' :: more => more
  | breaks => breaks

def gapText (gap : List Char) : List Char :=
  match gap.filter isBreak with
  | [] => gap
  | breaks => fold breaks

/-! ## Plain scalars -/

/-- The characters that end a plain scalar inside of brackets or braces. -/
def isFlowIndicator (c : Char) : Bool :=
  c == ',' || c == '[' || c == ']' || c == '\x7b' || c == '\x7d'

/-- Where a plain scalar stands: whether inside of brackets or braces, and the column
that its later lines must reach if not. -/
structure Margin where
  flow : Bool
  column : Int
  deriving DecidableEq, Repr

/-- Whether a plain scalar cannot go on after a gap, because the text is not indented
enough or a comment or a mark begins. -/
def Margin.endsAfterGap (m : Margin) (s : Spot) (rest : List Spot) : Bool :=
  (!m.flow && s.column < m.column) || s.char == '#' || atDocumentMark (s :: rest)

/-- Whether a character ends a plain scalar in the middle of a word. -/
def Margin.endsWord (m : Margin) (s : Spot) (rest : List Spot) : Bool :=
  (s.char == ':' && atWordEnd rest) || (m.flow && isFlowIndicator s.char)

/-- Inside of brackets or braces, a colon must not be right before one of their
indicators. -/
def Margin.forbidsColon (m : Margin) (s : Spot) (rest : List Spot) : Bool :=
  m.flow && s.char == ':' && rest.head?.any fun x => isFlowIndicator x.char || x.char == '?'

/-- The rest of a plain scalar, after the characters of a gap, last first.  The result
holds the text, the gap behind it, and what follows. -/
def plainFrom (m : Margin) (gap : List Char) : List Spot →
    Option (List Char × List Char × List Spot)
  | [] => some ([], gap, [])
  | s :: rest =>
    if isBlank s.char || isBreak s.char then
      if s.char = '\t' ∧ s.column < m.column ∧ gap.any isBreak then none
      else plainFrom m (s.char :: gap) rest
    else if gap ≠ [] ∧ m.endsAfterGap s rest then some ([], gap, s :: rest)
    else if m.forbidsColon s rest then none
    else if m.endsWord s rest then some ([], gap, s :: rest)
    else do
      let (text, after, rest) ← plainFrom m [] rest
      some (gapText gap.reverse ++ s.char :: text, after, rest)

/-! ## Quoted scalars -/

/-- The character that a one-letter escape stands for. -/
def shortEscape? : Char → Option Char
  | '0' => some '\x00'
  | 'a' => some '\x07'
  | 'b' => some '\x08'
  | 't' | '\t' => some '\t'
  | 'n' => some '\n'
  | 'v' => some '\x0b'
  | 'f' => some '\x0c'
  | 'r' => some '\r'
  | 'e' => some '\x1b'
  | ' ' => some ' '
  | '"' => some '"'
  | '/' => some '/'
  | '\\' => some '\\'
  | 'N' => some '\x85'
  | '_' => some '\xa0'
  | 'L' => some '\u2028'
  | 'P' => some '\u2029'
  | _ => none

def escapeDigits? : Char → Option Nat
  | 'x' => some 2
  | 'u' => some 4
  | 'U' => some 8
  | _ => none

/-- The character of a code point, which must not be a surrogate. -/
def charOf? (n : Nat) : Option Char := if n.isValidChar then some (Char.ofNat n) else none

/-- What a quoted scalar is in the middle of. -/
inductive Quoting
  /-- Text, after the characters of a gap, last first. -/
  | text (gap : List Char)
  /-- A line whose end was escaped, after the line breaks that follow, last first. -/
  | joined (breaks : List Char)
  /-- A single quote, which ends the scalar unless another follows. -/
  | quote
  | escape
  /-- A numeric escape with so many digits to come after the next one. -/
  | digits (left code : Nat)
  deriving DecidableEq, Repr

def Quoting.pending : Quoting → List Char
  | text gap => gapText gap.reverse
  | joined breaks => breaks.reverse
  | _ => []

/-- The same gap with one more character. -/
def Quoting.extend (q : Quoting) (c : Char) : Quoting :=
  match q with
  | joined breaks => if isBreak c then joined (c :: breaks) else joined breaks
  | text gap => text (c :: gap)
  | q => q

/-- The rest of a quoted scalar and what follows its closing quote. -/
def quotedFrom (double : Bool) : Quoting → List Spot → Option (List Char × List Spot)
  | .quote, [] => some ([], [])
  | _, [] => none
  | .quote, s :: rest =>
    if s.char = '\'' then do
      let (text, rest) ← quotedFrom double (.text []) rest
      some ('\'' :: text, rest)
    else some ([], s :: rest)
  | .escape, s :: rest =>
    if isBreak s.char then quotedFrom double (.joined []) rest
    else match shortEscape? s.char, escapeDigits? s.char with
      | some c, _ => do
        let (text, rest) ← quotedFrom double (.text []) rest
        some (c :: text, rest)
      | none, some n => quotedFrom double (.digits (n - 1) 0) rest
      | none, none => none
  | .digits left code, s :: rest => do
    let code := code * 16 + (← Text.hexDigit? s.char)
    match left with
    | left + 1 => quotedFrom double (.digits left code) rest
    | 0 =>
      let c ← charOf? code
      let (text, rest) ← quotedFrom double (.text []) rest
      some (c :: text, rest)
  | q, s :: rest =>
    if isBlank s.char || isBreak s.char then quotedFrom double (q.extend s.char) rest
    else if atDocumentMark (s :: rest) then none
    else if double && s.char == '"' then some (q.pending, rest)
    else do
      let (text, rest) ←
        if !double && s.char == '\'' then quotedFrom double .quote rest
        else if double && s.char == '\\' then quotedFrom double .escape rest
        else (quotedFrom double (.text []) rest).map fun r => (s.char :: r.1, r.2)
      some (q.pending ++ text, rest)

/-! ## Block scalars -/

/-- What happens to the line breaks at the end of a block scalar: all are dropped, one
is kept, or all are kept. -/
inductive Chomping
  | strip
  | clip
  | keep
  deriving DecidableEq, Repr

/-- How the text of a block scalar is read. -/
structure BlockStyle where
  folded : Bool
  chomping : Chomping
  deriving DecidableEq, Repr

def chomping? : Char → Option Chomping
  | '-' => some .strip
  | '+' => some .keep
  | _ => none

/-- A digit that says how deep a block is; zero is not one. -/
def depth? (c : Char) : Option (Option Nat) :=
  if c = '0' then none
  else if c.isDigit then some (some (c.toNat - '0'.toNat))
  else some none

/-- What stands between the mark of a block scalar and the end of its line: chomping and
depth, in either order and each at most once. -/
def blockHeader? (s : List Spot) : Option (Chomping × Option Nat × List Spot) := do
  match s with
  | [] => some (.clip, none, [])
  | a :: rest =>
    match chomping? a.char with
    | some c =>
      match rest with
      | [] => some (c, none, [])
      | b :: more =>
        let d ← depth? b.char
        some (c, d, ← endLine? (if d.isSome then more else rest))
    | none =>
      match ← depth? a.char with
      | none => some (.clip, none, ← endLine? s)
      | some d =>
        match rest with
        | [] => some (.clip, some d, [])
        | b :: more =>
          match chomping? b.char with
          | some c => some (c, some d, ← endLine? more)
          | none => some (.clip, some d, ← endLine? rest)

/-- The greatest column that is reached before the first text of a block, or before the
end, from some column on.  A tab must not stand there. -/
def textColumn? (greatest column : Nat) : List Spot → Option Nat
  | [] => some (max greatest column)
  | s :: rest =>
    if s.char = ' ' then textColumn? greatest (column + 1) rest
    else if s.char = '\t' then none
    else if isBreak s.char then textColumn? (max greatest column) 0 rest
    else some (max greatest column)

/-- How far the reading of a block has come. -/
inductive BlockReading
  /-- In a line of text, which began with a blank or not. -/
  | line (blank : Bool)
  /-- Before a line: the break that ended the last line of text, which began with a blank
  or not, and the breaks after it, last first. -/
  | between (first : List Char) (more : List Char) (blank : Bool)
  deriving DecidableEq, Repr

/-- What stands between two lines of text, the second of which begins with the given
character. -/
def BlockStyle.joint (b : BlockStyle) (first more : List Char) (blank : Bool) (c : Char) :
    List Char :=
  if b.folded && first == ['\n'] && !blank && !isBlank c then
    if more = [] then [' '] else more.reverse
  else first ++ more.reverse

/-- What stands after the last line of text. -/
def BlockStyle.tail (b : BlockStyle) (first more : List Char) : List Char :=
  match b.chomping with
  | .strip => []
  | .clip => first
  | .keep => first ++ more.reverse

/-- The rest of a block scalar whose text begins at a column, and what follows it. -/
def blockFrom (b : BlockStyle) (column : Nat) : BlockReading → List Spot →
    Option (List Char × List Spot)
  | .line _, [] => some ([], [])
  | .between first more _, [] => some (b.tail first more, [])
  | .line blank, s :: rest =>
    if isBreak s.char then blockFrom b column (.between [s.char] [] blank) rest
    else do
      let (text, rest) ← blockFrom b column (.line blank) rest
      some (s.char :: text, rest)
  | .between first more blank, s :: rest =>
    if s.column < column ∧ s.char = ' ' then blockFrom b column (.between first more blank) rest
    else if s.column < column ∧ s.char = '\t' then none
    else if isBreak s.char then blockFrom b column (.between first (s.char :: more) blank) rest
    else if s.column = column then do
      let (text, rest) ← blockFrom b column (.line (isBlank s.char)) rest
      some (b.joint first more blank s.char ++ s.char :: text, rest)
    else some (b.tail first more, s :: rest)

/-- The text of a block scalar inside of a block at some column, and what follows it.  The
spots begin after its mark. -/
def block? (folded : Bool) (indent : Int) (s : List Spot) : Option (List Char × List Spot) := do
  let (chomping, depth, s) ← blockHeader? s
  let column ← match depth with
    | some d => some (max indent 0 + d).toNat
    | none => do some (max (← textColumn? 0 0 s) (max (indent + 1) 1).toNat)
  blockFrom ⟨folded, chomping⟩ column (.between [] [] false) s

end LintGloss.Yaml.Token
