import LintGloss.Text.Digit
/-!
# Strings and blanks in TOML

The four kinds of strings, and what may stand between values.  A line ends with a
line feed, before which a carriage return may stand; anywhere else a carriage return
is refused, as are all other controls but the tab.
-/

namespace LintGloss.Toml

/-- A character that may stand in a string or a comment. -/
def isTextChar (c : Char) : Bool := c == '\t' || (0x20 ≤ c.toNat && c.toNat != 0x7F)

def isBlank (c : Char) : Bool := c == ' ' || c == '\t'

def dropBlanks (s : List Char) : List Char := s.dropWhile isBlank

/-! ## Strings -/

/-- The character that a one-letter escape stands for. -/
def shortEscape? : Char → Option Char
  | 'b' => some '\x08'
  | 't' => some '\t'
  | 'n' => some '\n'
  | 'f' => some '\x0c'
  | 'r' => some '\r'
  | 'e' => some '\x1b'
  | '"' => some '"'
  | '\\' => some '\\'
  | _ => none

/-- How many hexadecimal digits an escape has. -/
def escapeDigits? : Char → Option Nat
  | 'x' => some 2
  | 'u' => some 4
  | 'U' => some 8
  | _ => none

/-- What a string is in the middle of. -/
inductive Quoting
  | text
  | escape
  /-- A numeric escape with so many digits to come after the next one. -/
  | digits (left code : Nat)
  /-- The space that a backslash at the end of a line removes, before or after the end of
  that line. -/
  | joined (ended : Bool)
  deriving DecidableEq, Repr

/-- What the closing quotes at the front leave of a string of several lines: up to two of
them belong to it. -/
def closing? (q : Char) : List Char → Option (List Char × List Char)
  | a :: b :: c :: rest =>
    if a = q ∧ b = q ∧ c = q then
      match rest with
      | d :: e :: more =>
        if d = q ∧ e = q then some ([q, q], more)
        else if d = q then some ([q], e :: more)
        else some ([], rest)
      | [d] => if d = q then some ([q], []) else some ([], [d])
      | [] => some ([], [])
    else none
  | _ => none

/-- The rest of a string in double quotes and what follows it. -/
def basicFrom (lines : Bool) : Quoting → List Char → Option (List Char × List Char)
  | _, [] => none
  | .escape, c :: rest =>
    match shortEscape? c, escapeDigits? c with
    | some c, _ => do
      let (text, rest) ← basicFrom lines .text rest
      some (c :: text, rest)
    | none, some n => basicFrom lines (.digits (n - 1) 0) rest
    | none, none =>
      if lines && isBlank c then basicFrom lines (.joined false) rest
      else if lines && c == '\n' then basicFrom lines (.joined true) rest
      else none
  | .digits left code, c :: rest => do
    let code := code * 16 + (← Text.hexDigit? c)
    match left with
    | left + 1 => basicFrom lines (.digits left code) rest
    | 0 =>
      if code.isValidChar then
        let (text, rest) ← basicFrom lines .text rest
        some (Char.ofNat code :: text, rest)
      else none
  | q, c :: rest =>
    if q ≠ .text ∧ (isBlank c || c == '\n') then
      basicFrom lines (.joined (q = .joined true || c == '\n')) rest
    else if q = .joined false then none
    else if c = '"' then
      if !lines then some ([], rest)
      else match closing? '"' (c :: rest) with
        | some r => some r
        | none => do
          let (text, rest) ← basicFrom lines .text rest
          some (c :: text, rest)
    else if c = '\\' then basicFrom lines .escape rest
    else if isTextChar c || (lines && c == '\n') then do
      let (text, rest) ← basicFrom lines .text rest
      some (c :: text, rest)
    else none

/-- The rest of a string in single quotes and what follows it. -/
def literalFrom (lines : Bool) : List Char → Option (List Char × List Char)
  | [] => none
  | c :: rest =>
    if c = '\'' ∧ !lines then some ([], rest)
    else match if c = '\'' then closing? '\'' (c :: rest) else none with
      | some r => some r
      | none =>
        if isTextChar c || (lines && c == '\n') then do
          let (text, rest) ← literalFrom lines rest
          some (c :: text, rest)
        else none

/-- The string at the front and what follows it.  In one of several lines, a line end right
after the opening quotes is dropped. -/
def string? : List Char → Option (List Char × List Char)
  | '"' :: '"' :: '"' :: '\n' :: rest | '"' :: '"' :: '"' :: rest => basicFrom true .text rest
  | '"' :: rest => basicFrom false .text rest
  | '\'' :: '\'' :: '\'' :: '\n' :: rest | '\'' :: '\'' :: '\'' :: rest => literalFrom true rest
  | '\'' :: rest => literalFrom false rest
  | _ => none

/-! ## Line ends -/

/-- The text with one line feed for each line end; a carriage return elsewhere is refused. -/
def unifyLines? : List Char → Option (List Char)
  | [] => some []
  | '\r' :: '\n' :: rest => (unifyLines? rest).map ('\n' :: ·)
  | c :: rest => if c = '\r' then none else (unifyLines? rest).map (c :: ·)

/-- The text after the comment at the front, if there is one. -/
def afterComment? : List Char → Option (List Char)
  | '#' :: rest =>
    let (comment, rest) := rest.span (· ≠ '\n')
    if comment.all isTextChar then some rest else none
  | s => some s

/-- The text after the end of this line, before which only blanks and a comment may stand. -/
def afterLine? (s : List Char) : Option (List Char) := do
  match ← afterComment? (dropBlanks s) with
  | [] => some []
  | '\n' :: rest => some rest
  | _ => none

/-- The text after blanks, comments and line ends.  Each round takes a line end, so the
number of characters is enough fuel. -/
def skipLines? : Nat → List Char → Option (List Char)
  | 0, s => some s
  | fuel + 1, s => do
    match ← afterComment? (dropBlanks s) with
    | '\n' :: rest => skipLines? fuel rest
    | s => some s

end LintGloss.Toml
