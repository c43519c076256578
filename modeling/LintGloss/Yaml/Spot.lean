/-!
# The characters of a YAML text, with their places

Where a character stands decides much in YAML: columns make the structure, and a
key has to stand on the line of its colon.  So a text is first turned into its
*spots*, each a character with its place.

Five things end a line: a line feed, a carriage return, the two together, the
control U+0085, and the separators U+2028 and U+2029.  The separators stay what
they are, and all the others become one line feed, so that nothing later has to
know of them.
-/

namespace LintGloss.Yaml

/-- A character, how many octets of the text stand before it, and its line and its column,
both from zero.  A column counts characters. -/
structure Spot where
  char : Char
  index : Nat
  line : Nat
  column : Nat
  deriving DecidableEq, Repr

/-- A character that may stand in a YAML text: no controls but those that are blanks or
end lines, and no code point that is set aside for good at the end of the first plane. -/
def isAllowed (c : Char) : Bool :=
  let n := c.toNat
  n == 0x9 || n == 0xA || n == 0xD || (0x20 ≤ n && n ≤ 0x7E) || n == 0x85 ||
    (0xA0 ≤ n && n ≤ 0xFFFD) || 0x10000 ≤ n

def byteOrderMark : Char := '\uFEFF'

/-- A space or a tab. -/
def isBlank (c : Char) : Bool := c == ' ' || c == '\t'

/-- What ends a line of spots. -/
def isBreak (c : Char) : Bool := c == '\n' || c == '\u2028' || c == '\u2029'

/-- A character of a name: an ASCII letter or digit, a low line or a hyphen. -/
def isWordChar (c : Char) : Bool := c.isAlphanum || c == '_' || c == '-'

namespace Spot

/-- The spots of a text whose first character has the given index, line and column.  A
character counts as its octets in UTF-8, also where it is replaced by another. -/
def place (index line column : Nat) : List Char → List Spot
  | [] => []
  | '\r' :: '\n' :: rest => ⟨'\n', index, line, column⟩ :: place (index + 2) (line + 1) 0 rest
  | c :: rest =>
    let next := index + c.utf8Size
    let c := if c = '\r' ∨ c = '\x85' then '\n' else c
    if isBreak c then ⟨c, index, line, column⟩ :: place next (line + 1) 0 rest
    else ⟨c, index, line, column⟩ :: place next line (column + 1) rest

/-- The spots of a text that holds no forbidden character. -/
def ofText? (s : List Char) : Option (List Spot) :=
  if s.all isAllowed then some (place 0 0 0 s) else none

end Spot

/-- Whether a word ends before these spots: they begin with a blank or a line break, or
there are none. -/
def atWordEnd : List Spot → Bool
  | [] => true
  | s :: _ => isBlank s.char || isBreak s.char

/-- Whether a line ends before these spots. -/
def atLineEnd : List Spot → Bool
  | [] => true
  | s :: _ => isBreak s.char

/-- Whether the spots begin with a mark between documents: three hyphens or three points,
alone at the start of a line. -/
def atDocumentMark : List Spot → Bool
  | a :: b :: c :: rest =>
    a.column == 0 && (a.char == '-' || a.char == '.') && b.char == a.char && c.char == a.char &&
      atWordEnd rest
  | _ => false

/-- The spots after the blanks and the comment at the end of a line, if nothing else
stands there. -/
def endLine? (s : List Spot) : Option (List Spot) :=
  let s := s.dropWhile fun x => isBlank x.char
  let s := match s with
    | ⟨'#', _, _, _⟩ :: _ => s.dropWhile fun x => !isBreak x.char
    | s => s
  if atLineEnd s then some s.tail else none

end LintGloss.Yaml
