import LintGloss.Json.Basic
import LintGloss.Json.Token.Lexer
/-!
# From JSON tokens to values

A machine reads the tokens one by one.  It keeps the arrays and objects that are
open, innermost first, and what may come next.  A text is a value if the machine
takes all of its tokens and has finished one value at the end.  No more than 127
arrays and objects may be open at once.
-/

namespace LintGloss.Json

/-- An array or an object that is still open, with what it holds so far, last first;
an object is waiting for the value of a key. -/
inductive Frame
  | arr (items : List Json)
  | obj (members : List (String × Json)) (key : String)
  deriving Repr

/-- What may come next, with the open arrays and objects around it. -/
inductive Reader
  | value (stack : List Frame)
  /-- A value or the end of the array that has just begun. -/
  | firstItem (stack : List Frame)
  /-- A comma or the end of the array. -/
  | afterItem (items : List Json) (stack : List Frame)
  /-- A key or the end of the object that has just begun. -/
  | firstKey (stack : List Frame)
  | key (members : List (String × Json)) (stack : List Frame)
  | colon (members : List (String × Json)) (key : String) (stack : List Frame)
  /-- A comma or the end of the object. -/
  | afterMember (members : List (String × Json)) (stack : List Frame)
  | finished (j : Json)
  deriving Repr

namespace Reader

/-- How many arrays and objects may be open at once. -/
def depthLimit : Nat := 127

/-- Hands a finished value to the innermost open array or object. -/
def give (j : Json) : List Frame → Reader
  | [] => .finished j
  | .arr items :: stack => .afterItem (j :: items) stack
  | .obj members k :: stack => .afterMember ((k, j) :: members) stack

/-- The value that a token is on its own. -/
def scalar? : Token → Option Json
  | .null => some .null
  | .bool b => some (.bool b)
  | .int n => some (.int n)
  | .real d => some (.real d)
  | .str s => some (.str s)
  | _ => none

/-- Reads a token where a value must come. -/
def begin (stack : List Frame) : Token → Option Reader
  | .arrOpen => if stack.length < depthLimit then some (.firstItem stack) else none
  | .objOpen => if stack.length < depthLimit then some (.firstKey stack) else none
  | t => (scalar? t).map (give · stack)

def step : Reader → Token → Option Reader
  | .value stack, t => begin stack t
  | .firstItem stack, .arrClose => some (give (.arr []) stack)
  | .firstItem stack, t => begin (.arr [] :: stack) t
  | .afterItem items stack, .comma => some (.value (.arr items :: stack))
  | .afterItem items stack, .arrClose => some (give (.arr items.reverse) stack)
  | .firstKey stack, .objClose => some (give (.obj []) stack)
  | .firstKey stack, .str k => some (.colon [] k stack)
  | .key members stack, .str k => some (.colon members k stack)
  | .colon members k stack, .colon => some (.value (.obj members k :: stack))
  | .afterMember members stack, .comma => some (.key members stack)
  | .afterMember members stack, .objClose => some (give (.obj members.reverse) stack)
  | _, _ => none

def run (r : Reader) (ts : List Token) : Option Reader := ts.foldlM step r

end Reader

def ofTokens? (ts : List Token) : Option Json :=
  match Reader.run (.value []) ts with
  | some (.finished j) => some j
  | _ => none

def parse? (s : List Char) : Option Json := do ofTokens? (← lex s)

end LintGloss.Json
