import LintGloss.Decimal.Binary64
import LintGloss.Json.Token
import LintGloss.Text.Digit
/-!
# Reading JSON tokens

`Token.next?` reads one token off a text that does not start with a space, and
`lex` reads all of them; a space is a blank, a tab, a line feed or a carriage
return.  The reading is strict: no leading zeros, no raw control characters in a
string, no surrogate without its partner, no number beyond the doubles.
-/

namespace LintGloss.Json

open Text (hexValue?)

def isSpace (c : Char) : Bool := c == ' ' || c == '\t' || c == '\n' || c == '\r'

def skipSpaces (s : List Char) : List Char := s.dropWhile isSpace

/-! ## Strings -/

/-- A piece of a string: a character, or one 16-bit unit given by its number. -/
inductive Piece
  | char (c : Char)
  | unit (n : Nat)
  deriving DecidableEq, Repr

/-- The character that a one-letter escape stands for. -/
def shortEscape? : Char → Option Char
  | '"' => some '"'
  | '\\' => some '\\'
  | '/' => some '/'
  | 'b' => some '\x08'
  | 'f' => some '\x0c'
  | 'n' => some '\n'
  | 'r' => some '\r'
  | 't' => some '\t'
  | _ => none

/-- The pieces up to the closing quote, and what follows it. -/
def pieces : List Char → Option (List Piece × List Char)
  | [] => none
  | '"' :: rest => some ([], rest)
  | '\\' :: 'u' :: a :: b :: c :: d :: rest => do
    let n ← hexValue? [a, b, c, d]
    let (ps, rest) ← pieces rest
    some (.unit n :: ps, rest)
  | '\\' :: e :: rest => do
    let c ← shortEscape? e
    let (ps, rest) ← pieces rest
    some (.char c :: ps, rest)
  | c :: rest =>
    if c.toNat < 0x20 ∨ c = '\\' then none
    else do
      let (ps, rest) ← pieces rest
      some (.char c :: ps, rest)

/-- The text of the pieces.  Units of a surrogate pair are one character, and a
surrogate outside of a pair is refused. -/
def join : List Piece → Option (List Char)
  | [] => some []
  | .char c :: rest => (join rest).map (c :: ·)
  | .unit hi :: .unit lo :: rest =>
    if 0xD800 ≤ hi ∧ hi ≤ 0xDBFF ∧ 0xDC00 ≤ lo ∧ lo ≤ 0xDFFF then
      (join rest).map (Char.ofNat (0x10000 + (hi - 0xD800) * 0x400 + (lo - 0xDC00)) :: ·)
    else if 0xD800 ≤ hi ∧ hi ≤ 0xDFFF then none
    else (join (.unit lo :: rest)).map (Char.ofNat hi :: ·)
  | .unit n :: rest =>
    if 0xD800 ≤ n ∧ n ≤ 0xDFFF then none else (join rest).map (Char.ofNat n :: ·)

/-! ## Numbers -/

/-- A number as it is written: its sign, the digits before and after the point, and
the exponent if there is one. -/
structure Numeral where
  negative : Bool
  whole : List Char
  fraction : List Char
  exponent : Option Int
  deriving DecidableEq, Repr

/-- A run of digits that is not empty, and what follows it. -/
def digits1 (s : List Char) : Option (List Char × List Char) :=
  match s.span Char.isDigit with
  | ([], _) => none
  | r => some r

/-- The exponent after its `e`. -/
def exponent? : List Char → Option (Int × List Char)
  | '-' :: s => (digits1 s).map fun (ds, rest) => (-(Text.decimalValue ds : Int), rest)
  | '+' :: s => (digits1 s).map fun (ds, rest) => ((Text.decimalValue ds : Int), rest)
  | s => (digits1 s).map fun (ds, rest) => ((Text.decimalValue ds : Int), rest)

/-- The exponent, if an `e` of either case says that there is one. -/
def optionalExponent : List Char → Option (Option Int × List Char)
  | c :: s =>
    if c = 'e' ∨ c = 'E' then (exponent? s).map fun (e, rest) => (some e, rest)
    else some (none, c :: s)
  | [] => some (none, [])

/-- The digits after the point, if there is one. -/
def optionalFraction : List Char → Option (List Char × List Char)
  | '.' :: s => digits1 s
  | s => some ([], s)

/-- The number behind a sign. -/
def unsigned? (negative : Bool) (s : List Char) : Option (Numeral × List Char) := do
  let (whole, s) ← digits1 s
  if whole.head? = some '0' ∧ whole.length ≠ 1 then none
  else
    let (fraction, s) ← optionalFraction s
    let (exponent, s) ← optionalExponent s
    some (⟨negative, whole, fraction, exponent⟩, s)

def numeral? : List Char → Option (Numeral × List Char)
  | '-' :: s => unsigned? true s
  | s => unsigned? false s

namespace Numeral

def toDecimal (n : Numeral) : Decimal :=
  ⟨n.negative, Text.decimalValue (n.whole ++ n.fraction),
    n.exponent.getD 0 - n.fraction.length⟩

/-- The digits before the point that fit 64 bits as one number, and how many there
are after them. -/
def leadingWhole : Nat → List Char → Nat × Nat
  | n, [] => (n, 0)
  | n, c :: rest =>
    let m := n * 10 + (c.toNat - '0'.toNat)
    if m < Nat.pow 2 64 then leadingWhole m rest else (n, rest.length + 1)

/-- Appends the digits after the point as long as the number fits 64 bits; also how
many they were. -/
def leadingFraction : Nat → List Char → Nat × Nat
  | n, [] => (n, 0)
  | n, c :: rest =>
    let m := n * 10 + (c.toNat - '0'.toNat)
    if m < Nat.pow 2 64 then
      let (k, count) := leadingFraction m rest
      (k, count + 1)
    else (n, 0)

/-- Whether a double holds the number.  What is measured is the number of the leading
digits, rounded to a double, times the double of the power of ten that remains: at
the very edge of the range this differs from the exact value. -/
def inRange (n : Numeral) : Bool :=
  let (w, dropped) := leadingWhole 0 n.whole
  let (m, kept) := leadingFraction w n.fraction
  let e := n.exponent.getD 0 + dropped - kept
  if m = 0 ∨ e < 0 then true
  else if 308 < e then false
  else ((Binary64.ofDecimal ⟨false, m, 0⟩).mul (Binary64.ofDecimal ⟨false, 1, e⟩)).isFinite

def toToken? (n : Numeral) : Option Token :=
  let value := Text.decimalValue n.whole
  let isWhole := n.fraction.isEmpty && n.exponent.isNone
  if isWhole ∧ !n.negative ∧ value < Nat.pow 2 64 then some (.int value)
  else if isWhole ∧ n.negative ∧ 0 < value ∧ value ≤ Nat.pow 2 63 then some (.int (-value))
  else if n.inRange then some (.real n.toDecimal)
  else none

end Numeral

/-! ## Tokens -/

/-- The token at the front of a text, and what follows it. -/
def Token.next? : List Char → Option (Token × List Char)
  | '[' :: rest => some (.arrOpen, rest)
  | ']' :: rest => some (.arrClose, rest)
  | '\x7b' :: rest => some (.objOpen, rest)
  | '\x7d' :: rest => some (.objClose, rest)
  | ',' :: rest => some (.comma, rest)
  | ':' :: rest => some (.colon, rest)
  | 'n' :: 'u' :: 'l' :: 'l' :: rest => some (.null, rest)
  | 't' :: 'r' :: 'u' :: 'e' :: rest => some (.bool true, rest)
  | 'f' :: 'a' :: 'l' :: 's' :: 'e' :: rest => some (.bool false, rest)
  | '"' :: rest => do
    let (ps, rest) ← pieces rest
    let s ← join ps
    some (.str (String.ofList s), rest)
  | s => do
    let (n, rest) ← numeral? s
    let t ← n.toToken?
    some (t, rest)

/-- The tokens of a text, or nothing if a part of it is no token.  Each token takes at
least one character, so the length of the text bounds their number. -/
def lexFrom : Nat → List Char → Option (List Token)
  | 0, s => if skipSpaces s = [] then some [] else none
  | fuel + 1, s =>
    match skipSpaces s with
    | [] => some []
    | s => do
      let (t, rest) ← Token.next? s
      let ts ← lexFrom fuel rest
      some (t :: ts)

def lex (s : List Char) : Option (List Token) := lexFrom s.length s

end LintGloss.Json
