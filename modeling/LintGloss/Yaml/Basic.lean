import LintGloss.Decimal.Binary64
import LintGloss.Text.Quoted
/-!
# YAML values

What a YAML document means once its scalars are resolved and its aliases are
followed.  Keys of a mapping can be any values, and entries stand in the order of
the document.  A local tag such as `!t` stays on its value.

`same` is equality of values as keys: an integer is never a real, zeros of both
signs are one key, not-a-number is itself, and the order of a mapping's entries
does not count.
-/

namespace LintGloss

inductive Yaml
  | null
  | bool (b : Bool)
  | int (n : Int)
  | real (x : Binary64)
  | str (s : String)
  | seq (items : List Yaml)
  | map (entries : List (Yaml × Yaml))
  | tagged (tag : String) (value : Yaml)
  deriving Repr, Inhabited

namespace Yaml

/-- The value under all of its tags. -/
def untagged : Yaml → Yaml
  | tagged _ v => untagged v
  | v => v

/-- The value of an entry whose key is a plain string. -/
def find? (key : String) : List (Yaml × Yaml) → Option Yaml
  | [] => none
  | (.str k, v) :: rest => if k = key then some v else find? key rest
  | _ :: rest => find? key rest

/-! ## Equality of keys -/

mutual

def same : Yaml → Yaml → Bool
  | null, null => true
  | bool a, bool b => a == b
  | int m, int n => m == n
  | real x, real y => x.same y
  | str s, str t => s == t
  | seq xs, seq ys => sameItems xs ys
  | map xs, map ys => xs.length == ys.length && entriesIn xs ys
  | tagged s v, tagged t w => s == t && same v w
  | _, _ => false

def sameItems : List Yaml → List Yaml → Bool
  | [], [] => true
  | x :: xs, y :: ys => same x y && sameItems xs ys
  | _, _ => false

/-- Whether each entry of the first list is among those of the second. -/
def entriesIn : List (Yaml × Yaml) → List (Yaml × Yaml) → Bool
  | [], _ => true
  | (k, v) :: rest, ys => ys.any (fun e => same k e.1 && same v e.2) && entriesIn rest ys

end

/-! ## Texts of values -/

/-- A real as a key: the shortest decimal, written out between `1e-5` and `1e16` and
with a power of ten beyond. -/
def realText : Binary64 → List Char
  | .nan => ".nan".toList
  | .infinite true => "-.inf".toList
  | .infinite false => ".inf".toList
  | .finite negative m q =>
    let d := Binary64.shortest .toEven negative m q
    if d.units = 0 ∨ (-5 < d.pointPosition ∧ d.pointPosition ≤ 16) then d.positional
    else d.scientific

def boolText (b : Bool) : String := if b then "true" else "false"

def tagText (tag : String) : String := "!" ++ tag

mutual

/-- How a message shows a value: each scalar with its kind around it. -/
def shown : Yaml → String
  | null => "Null"
  | bool b => "Bool(" ++ boolText b ++ ")"
  | int n => "Number(" ++ String.ofList (Decimal.ofInt n) ++ ")"
  | real x => "Number(" ++ String.ofList (realText x) ++ ")"
  | str s => "String(" ++ Text.quoted s ++ ")"
  | seq items => "Sequence [" ++ shownItems items ++ "]"
  | map entries => "Mapping \x7b" ++ shownEntries entries ++ "\x7d"
  | tagged tag v => "TaggedValue \x7b tag: " ++ tagText tag ++ ", value: " ++ shown v ++ " \x7d"

/-- A key inside of a mapping: numbers, booleans and strings without their kind. -/
def shownKey : Yaml → String
  | bool b => boolText b
  | int n => String.ofList (Decimal.ofInt n)
  | real x => String.ofList (realText x)
  | str s => Text.quoted s
  | null => "Null"
  | seq items => "Sequence [" ++ shownItems items ++ "]"
  | map entries => "Mapping \x7b" ++ shownEntries entries ++ "\x7d"
  | tagged tag v => "TaggedValue \x7b tag: " ++ tagText tag ++ ", value: " ++ shown v ++ " \x7d"

def shownItems : List Yaml → String
  | [] => ""
  | [v] => shown v
  | v :: rest => shown v ++ ", " ++ shownItems rest

def shownEntries : List (Yaml × Yaml) → String
  | [] => ""
  | [(k, v)] => shownKey k ++ ": " ++ shown v
  | (k, v) :: rest => shownKey k ++ ": " ++ shown v ++ ", " ++ shownEntries rest

end

end Yaml

end LintGloss
