import LintGloss.Decimal.Basic
import LintGloss.Keyed
/-!
# JSON values

Numbers are of two kinds.  One written without point and exponent is an integer
if it fits 64 bits, signed or unsigned; all others are reals, and `-0` is one of
them.  An object keeps its members in the order in which they stand, and of two
members with one key the later counts.
-/

namespace LintGloss

inductive Json
  | null
  | bool (b : Bool)
  | int (n : Int)
  | real (d : Decimal)
  | str (s : String)
  | arr (items : List Json)
  | obj (members : List (String × Json))
  deriving Repr, Inhabited

namespace Json

/-- The member of an object; no other value has members. -/
def member? (key : String) : Json → Option Json
  | .obj members => lastOf? key members
  | _ => none

def nat (n : Nat) : Json := .int n

def strings (xs : List String) : Json := .arr (xs.map .str)

/-- Null for nothing, else the value. -/
def ofOption {α : Type} (f : α → Json) : Option α → Json
  | none => .null
  | some a => f a

/-! ## Sorted members -/

/-- Puts a member in front of the first with a greater key. -/
def insertMember (m : String × Json) : List (String × Json) → List (String × Json)
  | [] => [m]
  | x :: rest => if m.1 < x.1 then m :: x :: rest else x :: insertMember m rest

/-- The members in rising order of their keys; those with one key stay in order. -/
def sortMembers (ms : List (String × Json)) : List (String × Json) :=
  ms.foldl (fun sorted m => insertMember m sorted) []

mutual

/-- The same value with the members of every object in rising order of their keys. -/
def sortKeys : Json → Json
  | .arr items => .arr (sortItems items)
  | .obj members => .obj (sortMembers (sortValues members))
  | j => j

def sortItems : List Json → List Json
  | [] => []
  | j :: rest => sortKeys j :: sortItems rest

def sortValues : List (String × Json) → List (String × Json)
  | [] => []
  | (k, j) :: rest => (k, sortKeys j) :: sortValues rest

end

end Json

end LintGloss
