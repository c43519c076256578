import LintGloss.Toml.Basic
import LintGloss.Toml.Scalar
import LintGloss.Toml.Text
/-!
# Reading TOML

`Toml.parse?` gives the tables of a document, or nothing if the text is not TOML.
Inline tables may take several lines and end with a comma.  Arrays and inline tables
can be 80 deep, and a key can have 80 parts.
-/

namespace LintGloss.Toml

/-! ## Keys -/

def isKeyChar (c : Char) : Bool := c.isAlphanum || c == '_' || c == '-'

/-- One part of a key at the front, and what follows it. -/
def keyPart? (s : List Char) : Option (String × List Char) :=
  match s with
  | '"' :: rest => (basicFrom false .text rest).map fun r => (String.ofList r.1, r.2)
  | '\'' :: rest => (literalFrom false rest).map fun r => (String.ofList r.1, r.2)
  | s =>
    let (word, rest) := s.span isKeyChar
    if word = [] then none else some (String.ofList word, rest)

/-- The parts of a key at the front, at most so many, the last of them apart, and what
follows the key and the blanks after it. -/
def keyParts? : Nat → List Char → Option (List String × String × List Char)
  | 0, _ => none
  | more + 1, s => do
    let (part, rest) ← keyPart? s
    match dropBlanks rest with
    | '.' :: rest =>
      let (path, last, rest) ← keyParts? more (dropBlanks rest)
      some (part :: path, last, rest)
    | rest => some ([], part, rest)

def partLimit : Nat := 80

/-- The key at the front and what follows it. -/
def key? (s : List Char) : Option (List String × String × List Char) := keyParts? partLimit s

/-! ## Values -/

/-- How many arrays and inline tables may stand in one another. -/
def depthLimit : Nat := 80

/-- A character of a value without quotes and brackets. -/
def isBareChar (c : Char) : Bool :=
  c.isAlphanum || c == '_' || c == '-' || c == '+' || c == '.' || c == ':'

/-- The bare value at the front and what follows it.  A date may have a time after a
space. -/
def bare? (s : List Char) : Option (Toml × List Char) :=
  let (word, rest) := s.span isBareChar
  let (word, rest) := match rest with
    | ' ' :: c :: more =>
      if afterDate? word = some [] ∧ c.isDigit then
        let (time, rest) := (c :: more).span isBareChar
        (word ++ ' ' :: time, rest)
      else (word, rest)
    | rest => (word, rest)
  if isBareValue word then some (.value, rest) else none

def afterEquals? (s : List Char) : Option (List Char) := (expect? '=' s).map dropBlanks

/-- The same in an inline table, where lines may end on both sides of the sign. -/
def afterInlineEquals? (s : List Char) : Option (List Char) := do
  let s ← expect? '=' (← skipLines? s.length s)
  skipLines? s.length s

mutual

/-- The value at the front, with so many levels left below it, and what follows it.  Each
call but those between a value and its items takes a character, so twice the number of
characters is enough fuel. -/
def value? : Nat → Nat → List Char → Option (Toml × List Char)
  | 0, _, _ => none
  | fuel + 1, depth, s =>
    match s, depth with
    | '[' :: _, 0 | '\x7b' :: _, 0 => none
    | '[' :: rest, depth + 1 => do
      let rest ← items? fuel depth (← skipLines? rest.length rest)
      some (.value, rest)
    | '\x7b' :: rest, depth + 1 => do
      let (entries, rest) ← entries? fuel depth [] (← skipLines? rest.length rest)
      some (.inline entries, rest)
    | '"' :: _, _ | '\'' :: _, _ => (string? s).map fun r => (.value, r.2)
    | s, _ => bare? s

/-- What follows the items of an array and its closing bracket. -/
def items? : Nat → Nat → List Char → Option (List Char)
  | 0, _, _ => none
  | _ + 1, _, ']' :: rest => some rest
  | fuel + 1, depth, s => do
    let (_, rest) ← value? fuel depth s
    match ← skipLines? rest.length rest with
    | ',' :: rest => items? fuel depth (← skipLines? rest.length rest)
    | ']' :: rest => some rest
    | _ => none

/-- The entries of an inline table, added to those before them, and what follows its
closing brace. -/
def entries? : Nat → Nat → Entries → List Char → Option (Entries × List Char)
  | 0, _, _, _ => none
  | _ + 1, _, done, '\x7d' :: rest => some (done, rest)
  | fuel + 1, depth, done, s => do
    let (path, key, rest) ← key? s
    let (v, rest) ← value? fuel depth (← afterInlineEquals? rest)
    let done ← define? path key v done
    match ← skipLines? rest.length rest with
    | ',' :: rest => entries? fuel depth done (← skipLines? rest.length rest)
    | '\x7d' :: rest => some (done, rest)
    | _ => none

end

/-! ## Documents -/

/-- The document read so far: all its tables, and the path of the one under the last
header. -/
structure Draft where
  root : Entries := []
  header : List String := []

def Draft.header? (d : Draft) (s : List Char) : Option (Draft × List Char) := do
  let (path, key, rest) ← key? (dropBlanks s)
  let root ← Toml.header? path key d.root
  some (⟨root, path ++ [key]⟩, ← expect? ']' rest)

def Draft.arrayHeader? (d : Draft) (s : List Char) : Option (Draft × List Char) := do
  let (path, key, rest) ← key? (dropBlanks s)
  let root ← Toml.arrayHeader? path key d.root
  some (⟨root, path ++ [key]⟩, ← expect? ']' (← expect? ']' rest))

def Draft.pair? (d : Draft) (s : List Char) : Option (Draft × List Char) := do
  let (path, key, rest) ← key? s
  let rest ← afterEquals? rest
  let (v, rest) ← value? (2 * rest.length + 2) depthLimit rest
  some ({ d with root := ← defineUnder? d.header path key v d.root }, rest)

/-- Reads what stands on a line, which may be nothing. -/
def Draft.line? (d : Draft) (s : List Char) : Option (Draft × List Char) :=
  match s with
  | [] | '\n' :: _ | '#' :: _ => some (d, s)
  | '[' :: '[' :: rest => d.arrayHeader? rest
  | '[' :: rest => d.header? rest
  | s => d.pair? s

/-- Reads lines to the end; each takes a character. -/
def Draft.lines? (d : Draft) : Nat → List Char → Option Draft
  | 0, s => if s = [] then some d else none
  | fuel + 1, s =>
    if s = [] then some d
    else do
      let (d, rest) ← d.line? (dropBlanks s)
      Draft.lines? d fuel (← afterLine? rest)

/-- The table that a text writes.  A byte order mark may stand before it. -/
def parse? (s : List Char) : Option Toml := do
  let s := if s.head? = some '\uFEFF' then s.tail else s
  let s ← unifyLines? s
  let d ← Draft.lines? {} s.length s
  some (.table .header d.root)

end LintGloss.Toml
