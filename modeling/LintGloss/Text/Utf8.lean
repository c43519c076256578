/-!
# UTF-8

`scan` cuts a list of octets into characters and faults.  A fault is the longest
beginning of a character that the octets spell before they stop doing so, or one
octet that starts no character.  The two readings differ in what they make of a
fault: `decode?` refuses the whole text, `decodeLossy` puts the replacement
character U+FFFD in its place.
-/

namespace LintGloss.Text.Utf8

/-- How many octets follow a leading octet, the bounds of the first of them, and
the bits that the leading octet gives.  The bounds exclude overlong spellings,
surrogates and code points past U+10FFFF. -/
def lead? (b : UInt8) : Option (Nat × UInt8 × UInt8 × Nat) :=
  if b < 0x80 then some (0, 0x80, 0xBF, b.toNat)
  else if 0xC2 ≤ b ∧ b ≤ 0xDF then some (1, 0x80, 0xBF, b.toNat - 0xC0)
  else if b = 0xE0 then some (2, 0xA0, 0xBF, 0)
  else if b = 0xED then some (2, 0x80, 0x9F, 0xD)
  else if 0xE1 ≤ b ∧ b ≤ 0xEF then some (2, 0x80, 0xBF, b.toNat - 0xE0)
  else if b = 0xF0 then some (3, 0x90, 0xBF, 0)
  else if 0xF1 ≤ b ∧ b ≤ 0xF3 then some (3, 0x80, 0xBF, b.toNat - 0xF0)
  else if b = 0xF4 then some (3, 0x80, 0x8F, 4)
  else none

/-- Reads `n` following octets, the first of them within the bounds, onto the bits
read so far; also gives what is left when they are read or break off. -/
def follow : Nat → UInt8 → UInt8 → Nat → List UInt8 → Option Char × List UInt8
  | 0, _, _, bits, rest => (some (Char.ofNat bits), rest)
  | n + 1, lo, hi, bits, b :: rest =>
    if lo ≤ b ∧ b ≤ hi then follow n 0x80 0xBF (bits * 64 + (b.toNat - 0x80)) rest
    else (none, b :: rest)
  | _ + 1, _, _, _, [] => (none, [])

theorem length_follow (n : Nat) (lo hi : UInt8) (bits : Nat) (s : List UInt8) :
    (follow n lo hi bits s).2.length ≤ s.length := by
  induction n generalizing lo hi bits s with
  | zero => simp [follow]
  | succ n ih =>
    cases s with
    | nil => simp [follow]
    | cons b rest =>
      rw [follow]
      split
      · exact Nat.le_succ_of_le (ih _ _ _ _)
      · simp

/-- The characters that the octets spell, with `none` for each fault. -/
def scan : List UInt8 → List (Option Char)
  | [] => []
  | b :: rest =>
    match lead? b with
    | none => none :: scan rest
    | some (n, lo, hi, bits) =>
      have : (follow n lo hi bits rest).2.length < rest.length + 1 :=
        Nat.lt_succ_of_le (length_follow ..)
      (follow n lo hi bits rest).1 :: scan (follow n lo hi bits rest).2
termination_by s => s.length

/-- The text that the octets spell, if they are without a fault. -/
def decode? (s : List UInt8) : Option (List Char) := (scan s).mapM id

/-- The text that the octets spell, with U+FFFD in the place of each fault. -/
def decodeLossy (s : List UInt8) : List Char := (scan s).map (·.getD '\uFFFD')

def encode (s : String) : List UInt8 := s.toUTF8.toList

end LintGloss.Text.Utf8
