import LintGloss.Text.Unprintable
/-!
# Quoted texts

The form in which a message shows a text of the input: between double quotes,
with a backslash before a quote or a backslash, the short escapes of NUL, tab,
line feed and carriage return, and every other unprintable character by its
code point in braces.
-/

namespace LintGloss.Text

/-- The code point in lower-case hexadecimal, in braces. -/
def braced (c : Char) : List Char :=
  ['\\', 'u', '\x7b'] ++ Nat.toDigits 16 c.toNat ++ ['\x7d']

def quoteChar (c : Char) : List Char :=
  match c with
  | '\x00' => ['\\', '0']
  | '\t' => ['\\', 't']
  | '\n' => ['\\', 'n']
  | '\r' => ['\\', 'r']
  | '"' => ['\\', '"']
  | '\\' => ['\\', '\\']
  | c => if isPrintable c then [c] else braced c

/-- The text between quotes. -/
def quoted (s : String) : String :=
  String.ofList ('"' :: s.toList.flatMap quoteChar ++ ['"'])

end LintGloss.Text
