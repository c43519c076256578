import LintGloss.Text.Digit
import LintGloss.Text.Utf8
import LintGloss.Yaml.Spot
import LintGloss.Yaml.Token
/-!
# Reading names, tags and directives

Anchors and aliases are short names.  A tag is written in full between angle
brackets, or as a handle and a suffix, and a directive can say what a handle is short
for.  Tags are kept as octets, because an escape such as `%C3` gives one octet and
not one character; an octet zero ends a tag early.
-/

namespace LintGloss.Yaml.Token

def textOf (s : List Spot) : List Char := s.map (·.char)

/-! ## Anchors and aliases -/

/-- Whether the name of an anchor or an alias may end before these spots. -/
def atNameEnd : List Spot → Bool
  | [] => true
  | s :: _ =>
    isBlank s.char || isBreak s.char ||
      s.char ∈ ['?', ':', ',', ']', '\x7d', '%', '@', '\x60']

/-- The name at the front, and what follows it. -/
def name? (s : List Spot) : Option (List Char × List Spot) :=
  let (word, rest) := s.span fun x => isWordChar x.char
  if word = [] ∨ !atNameEnd rest then none else some (textOf word, rest)

/-! ## Tags -/

/-- Whether a character stands for itself in a tag.  Commas and brackets do so only where
nothing can take them for an end. -/
def isUriChar (wide : Bool) (c : Char) : Bool :=
  isWordChar c || c ∈ ";/?:@&=+$.!~*'()".toList || (wide && c ∈ [',', '[', ']'])

/-- How many octets more a leading octet asks for, as its high bits say. -/
def trailing? (b : Nat) : Option Nat :=
  if b < 0x80 then some 0
  else if b / 0x20 = 0x6 then some 1
  else if b / 0x10 = 0xE then some 2
  else if b / 0x8 = 0x1E then some 3
  else none

/-- The octets of a tag at the front, and what follows them.  The number says how many
more octets the character asks for whose escapes are being read. -/
def uriFrom (wide : Bool) (owed : Nat) : List Spot → Option (List UInt8 × List Spot)
  | [] => if owed = 0 then some ([], []) else none
  | s :: rest =>
    if s.char = '%' then
      match rest with
      | a :: b :: rest => do
        let octet := (← Text.hexDigit? a.char) * 16 + (← Text.hexDigit? b.char)
        let owed ← match owed with
          | 0 => trailing? octet
          | owed + 1 => if octet / 0x40 = 0x2 then some owed else none
        let (octets, rest) ← uriFrom wide owed rest
        some (octet.toUInt8 :: octets, rest)
      | _ => none
    else if owed ≠ 0 then none
    else if isUriChar wide s.char then do
      let (octets, rest) ← uriFrom wide 0 rest
      some (s.char.toNat.toUInt8 :: octets, rest)
    else some ([], s :: rest)

/-- The octets up to the first zero. -/
def untilZero (octets : List UInt8) : List UInt8 := octets.takeWhile (· ≠ 0)

/-- A tag's part that is not empty as it is written. -/
def uri? (wide : Bool) (s : List Spot) : Option (List UInt8 × List Spot) := do
  let (octets, rest) ← uriFrom wide 0 s
  if octets = [] then none else some (untilZero octets, rest)

/-- The handle at the front: an exclamation mark, a name, and perhaps a second mark. -/
def handle? : List Spot → Option (List Char × List Spot)
  | ⟨'!', _, _, _⟩ :: rest =>
    let (word, rest) := rest.span fun x => isWordChar x.char
    match rest with
    | ⟨'!', _, _, _⟩ :: rest => some ('!' :: textOf word ++ ['!'], rest)
    | rest => some ('!' :: textOf word, rest)
  | _ => none

/-- Whether a tag may end before these spots. -/
def atTagEnd (flow : Bool) (s : List Spot) : Bool :=
  atWordEnd s || (flow && s.head?.any (·.char = ','))

def octetsOf (s : List Char) : List UInt8 := s.map (·.toNat.toUInt8)

/-- The tag at the front.  A handle that does not end in a mark is the beginning of a
suffix of the primary handle, and a mark alone is a suffix of no handle. -/
def tagParts? : List Spot → Option (Token × List Spot)
  | _ :: ⟨'<', _, _, _⟩ :: rest => do
    let (suffix, rest) ← uri? true rest
    match rest with
    | ⟨'>', _, _, _⟩ :: rest => some (.tag [] suffix, rest)
    | _ => none
  | s => do
    let (h, rest) ← handle? s
    if 1 < h.length ∧ h.getLast? = some '!' then
      let (suffix, rest) ← uri? false rest
      some (.tag h suffix, rest)
    else
      let (octets, rest) ← uriFrom false 0 rest
      match untilZero (octetsOf h.tail ++ octets) with
      | [] => some (.tag [] (octetsOf ['!']), rest)
      | suffix => some (.tag ['!'] suffix, rest)

def tag? (flow : Bool) (s : List Spot) : Option (Token × List Spot) := do
  let (t, rest) ← tagParts? s
  if atTagEnd flow rest then some (t, rest) else none

/-! ## Directives -/

def dropBlanks (s : List Spot) : List Spot := s.dropWhile fun x => isBlank x.char

/-- A number of at most nine digits. -/
def versionNumber? (s : List Spot) : Option (Nat × List Spot) :=
  let (ds, rest) := s.span fun x => x.char.isDigit
  if ds = [] ∨ 9 < ds.length then none else some (Text.decimalValue (textOf ds), rest)

/-- The version after the word `YAML`. -/
def version? (s : List Spot) : Option (Token × List Spot) := do
  let (major, rest) ← versionNumber? (dropBlanks s)
  match rest with
  | ⟨'.', _, _, _⟩ :: rest =>
    let (minor, rest) ← versionNumber? rest
    some (.version major minor, rest)
  | _ => none

/-- The handle and what it is short for, after the word `TAG`. -/
def handleMeaning? (s : List Spot) : Option (Token × List Spot) := do
  let (h, rest) ← handle? (dropBlanks s)
  if h.length ≠ 1 ∧ h.getLast? ≠ some '!' then none
  else if !rest.head?.any fun x => isBlank x.char then none
  else
    let (uri, rest) ← uri? true (dropBlanks rest)
    if atWordEnd rest then some (.handle h uri, rest) else none

/-- The directive after its percent sign, and the line after it. -/
def directive? (s : List Spot) : Option (Token × List Spot) := do
  let (word, rest) := s.span fun x => isWordChar x.char
  if !atWordEnd rest then none
  else
    let (t, rest) ←
      if textOf word = "YAML".toList then version? rest
      else if textOf word = "TAG".toList then handleMeaning? rest
      else none
    some (t, ← endLine? rest)

end LintGloss.Yaml.Token
