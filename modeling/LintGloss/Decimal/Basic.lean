/-!
# Decimals

A decimal is a sign, a natural number of units and a power of ten that says how
much a unit is worth.  It is the exact value of a number as it is written; the
sign is kept of a zero too.
-/

namespace LintGloss

/-- The number `± units · 10 ^ exponent`. -/
structure Decimal where
  negative : Bool
  units : Nat
  exponent : Int
  deriving DecidableEq, Repr, Inhabited

namespace Decimal

def digits (n : Nat) : List Char := Nat.toDigits 10 n

def ofInt (n : Int) : List Char :=
  match n with
  | .ofNat n => digits n
  | .negSucc n => '-' :: digits (n + 1)

/-- The units without their trailing zeros, and how many those were.  The fuel is a
bound on the number of zeros. -/
def stripZeros : Nat → Nat → Nat × Nat
  | 0, n => (n, 0)
  | fuel + 1, n =>
    if n ≠ 0 ∧ n % 10 = 0 then
      let (m, k) := stripZeros fuel (n / 10)
      (m, k + 1)
    else (n, 0)

/-- The same number with the fewest units. -/
def reduce (d : Decimal) : Decimal :=
  let (m, k) := stripZeros (digits d.units).length d.units
  { d with units := m, exponent := d.exponent + k }

/-- How many digits stand before the point when the number is written out; zeros
right after the point count as negative. -/
def pointPosition (d : Decimal) : Int := (digits d.units).length + d.exponent

def signText (d : Decimal) : List Char := if d.negative then ['-'] else []

/-- The number written out, with at least one digit on each side of the point. -/
def positional (d : Decimal) : List Char :=
  let ds := digits d.units
  let p := d.pointPosition
  d.signText ++
    (if 0 ≤ d.exponent then ds ++ List.replicate d.exponent.toNat '0' ++ ['.', '0']
     else if 0 < p then ds.take p.toNat ++ '.' :: ds.drop p.toNat
     else '0' :: '.' :: List.replicate (-p).toNat '0' ++ ds)

/-- The number with one digit before the point and a power of ten after an `e`; the
point is there only if a digit follows it. -/
def scientific (d : Decimal) : List Char :=
  let ds := digits d.units
  d.signText ++ ds.take 1 ++ (if ds.length ≤ 1 then [] else '.' :: ds.drop 1) ++
    'e' :: ofInt (d.pointPosition - 1)

end Decimal

end LintGloss
