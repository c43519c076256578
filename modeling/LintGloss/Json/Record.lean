import LintGloss.Json.Basic
/-!
# Records in JSON

A record is written as an object with its fields as members, in any order and
among others, or as an array with its fields in their order.  An array may leave
off fields at its end if they are declared so, and holds nothing beyond them.
-/

namespace LintGloss.Json

structure Field where
  name : String
  /-- Whether an array may end before this field. -/
  omittable : Bool := false
  deriving DecidableEq, Repr

/-- Pairs the fields of an array with its items, as long as there are items. -/
def positional? : List Field → List Json → Option (List (String × Json))
  | [], [] => some []
  | f :: fs, j :: js => (positional? fs js).map ((f.name, j) :: ·)
  | fs, [] => if fs.all (·.omittable) then some [] else none
  | [], _ :: _ => none

/-- The value of each field of a record, if the JSON value has the shape of one. -/
def record? (shape : List Field) : Json → Option (String → Option Json)
  | .obj members => some fun name => lastOf? name members
  | .arr items => (positional? shape items).map fun fields name => lastOf? name fields
  | _ => none

/-- A string that has to be there. -/
def text? : Option Json → Option String
  | some (.str s) => some s
  | _ => none

/-- An integer between zero and a bound that has to be there. -/
def boundedNat? (bound : Nat) : Option Json → Option Nat
  | some (.int n) => if 0 ≤ n ∧ n ≤ bound then some n.toNat else none
  | _ => none

/-- A value that may be missing or null, and otherwise has to be readable. -/
def optional? {α : Type} (read : Option Json → Option α) : Option Json → Option (Option α)
  | none => some none
  | some .null => some none
  | j => (read j).map some

end LintGloss.Json
