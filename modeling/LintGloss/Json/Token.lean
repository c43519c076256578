import LintGloss.Decimal.Basic
/-!
# JSON tokens

The pieces of a JSON text between blanks, with the text that writes each.  A
string is written with the short escapes where there are any, with `\u00xx` for
the other controls, and otherwise as it is.
-/

namespace LintGloss.Json

inductive Token
  | arrOpen
  | arrClose
  | objOpen
  | objClose
  | comma
  | colon
  | null
  | bool (b : Bool)
  | int (n : Int)
  | real (d : Decimal)
  | str (s : String)
  deriving DecidableEq, Repr

/-- The lower-case hexadecimal digit of a number below sixteen. -/
def lowerHex (n : Nat) : Char := if n < 10 then Char.ofNat (0x30 + n) else Char.ofNat (0x57 + n)

def escapeChar (c : Char) : List Char :=
  match c with
  | '"' => ['\\', '"']
  | '\\' => ['\\', '\\']
  | '\x08' => ['\\', 'b']
  | '\t' => ['\\', 't']
  | '\n' => ['\\', 'n']
  | '\x0c' => ['\\', 'f']
  | '\r' => ['\\', 'r']
  | c =>
    if c.toNat < 0x20 then ['\\', 'u', '0', '0', lowerHex (c.toNat / 16), lowerHex (c.toNat % 16)]
    else [c]

def quote (s : String) : List Char := '"' :: s.toList.flatMap escapeChar ++ ['"']

namespace Token

def text : Token → List Char
  | arrOpen => ['[']
  | arrClose => [']']
  | objOpen => ['\x7b']
  | objClose => ['\x7d']
  | comma => [',']
  | colon => [':']
  | null => ['n', 'u', 'l', 'l']
  | bool true => ['t', 'r', 'u', 'e']
  | bool false => ['f', 'a', 'l', 's', 'e']
  | int n => Decimal.ofInt n
  | real d => d.signText ++ Decimal.digits d.units ++ 'e' :: Decimal.ofInt d.exponent
  | str s => quote s

end Token

end LintGloss.Json
