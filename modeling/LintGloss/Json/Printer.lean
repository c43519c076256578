import LintGloss.Json.Basic
import LintGloss.Json.Token
/-!
# Writing JSON values

Two layouts.  The compact one has no space outside of strings.  The pretty one
gives each item and each member a line of its own, two blanks deeper than what
holds it, and a blank after each colon; empty arrays and objects stay on their
line.
-/

namespace LintGloss.Json

inductive Layout
  | compact
  | pretty
  deriving DecidableEq, Repr

namespace Layout

/-- What stands before an item or an end at a depth. -/
def lineBreak (l : Layout) (depth : Nat) : List Char :=
  match l with
  | .compact => []
  | .pretty => '\n' :: List.replicate (2 * depth) ' '

def colon : Layout → List Char
  | .compact => [':']
  | .pretty => [':', ' ']

end Layout

mutual

def renderAt (l : Layout) (depth : Nat) : Json → List Char
  | .null => Token.null.text
  | .bool b => (Token.bool b).text
  | .int n => (Token.int n).text
  | .real d => (Token.real d).text
  | .str s => (Token.str s).text
  | .arr [] => ['[', ']']
  | .arr (j :: rest) =>
    '[' :: l.lineBreak (depth + 1) ++ renderAt l (depth + 1) j ++ renderItems l (depth + 1) rest ++
      l.lineBreak depth ++ [']']
  | .obj [] => ['\x7b', '\x7d']
  | .obj ((k, j) :: rest) =>
    '\x7b' :: l.lineBreak (depth + 1) ++ quote k ++ l.colon ++ renderAt l (depth + 1) j ++
      renderMembers l (depth + 1) rest ++ l.lineBreak depth ++ ['\x7d']

/-- The items after the first, each with the comma before it. -/
def renderItems (l : Layout) (depth : Nat) : List Json → List Char
  | [] => []
  | j :: rest => ',' :: l.lineBreak depth ++ renderAt l depth j ++ renderItems l depth rest

/-- The members after the first, each with the comma before it. -/
def renderMembers (l : Layout) (depth : Nat) : List (String × Json) → List Char
  | [] => []
  | (k, j) :: rest =>
    ',' :: l.lineBreak depth ++ quote k ++ l.colon ++ renderAt l depth j ++
      renderMembers l depth rest

end

def render (l : Layout) (j : Json) : String := String.ofList (renderAt l 0 j)

end LintGloss.Json
