import LintGloss.Decimal.Basic
/-!
# Double-precision numbers

A finite double is `± m · 2 ^ q` with `m < 2 ^ 53` and `-1074 ≤ q ≤ 971`, and `m`
is at least `2 ^ 52` unless `q` is the least exponent.  A ratio is rounded to the
nearest double, and one halfway between two goes to the one whose `m` is even;
what would need a greater exponent is infinite.

`shortest` finds the decimal with the fewest digits that rounds back to a given
double, and of those with that many digits the one nearest to it.  Two can be
equally near, and then the caller's rule decides.
-/

namespace LintGloss

inductive Binary64
  | finite (negative : Bool) (m : Nat) (q : Int)
  | infinite (negative : Bool)
  | nan
  deriving DecidableEq, Repr, Inhabited

namespace Binary64

def leastExponent : Int := -1074

def greatestExponent : Int := 971

def zero (negative : Bool) : Binary64 := .finite negative 0 leastExponent

/-- `a / b` over powers of two: the two natural numbers whose ratio is `a / (b · 2 ^ q)`. -/
def scaled (a b : Nat) (q : Int) : Nat × Nat :=
  if 0 ≤ q then (a, b * Nat.pow 2 q.toNat) else (a * Nat.pow 2 (-q).toNat, b)

/-- The exponent that gives `a / b` a mantissa of 53 bits, or the least exponent. -/
def exponentOf (a b : Nat) : Int :=
  let e : Int := (Nat.log2 a : Int) - Nat.log2 b
  let (n, d) := scaled a b e
  let q := if d ≤ n then e - 52 else e - 53
  max q leastExponent

/-- The quotient to the nearest natural number, a half going to the even one. -/
def roundHalfEven (n d : Nat) : Nat :=
  let m := n / d
  let r := n % d
  if d < 2 * r ∨ (2 * r = d ∧ m % 2 = 1) then m + 1 else m

/-- The double nearest to `± a / b`, for a positive `b`. -/
def ofRatio (negative : Bool) (a b : Nat) : Binary64 :=
  if a = 0 then zero negative
  else
    let q := exponentOf a b
    let (n, d) := scaled a b q
    let m := roundHalfEven n d
    let (m, q) := if m = Nat.pow 2 53 then (Nat.pow 2 52, q + 1) else (m, q)
    if greatestExponent < q then .infinite negative else .finite negative m q

/-- The double nearest to a decimal.  One with its first digit far beyond the range
of doubles is decided by the place of that digit alone. -/
def ofDecimal (d : Decimal) : Binary64 :=
  if d.units = 0 ∨ d.pointPosition < -400 then zero d.negative
  else if 400 < d.pointPosition then .infinite d.negative
  else if 0 ≤ d.exponent then ofRatio d.negative (d.units * Nat.pow 10 d.exponent.toNat) 1
  else ofRatio d.negative d.units (Nat.pow 10 (-d.exponent).toNat)

def isFinite : Binary64 → Bool
  | .finite .. => true
  | _ => false

/-- The product, rounded once.  A finite double times an infinite one and what has
no product are `nan`: no caller multiplies those. -/
def mul : Binary64 → Binary64 → Binary64
  | .finite s m q, .finite t n r =>
    let (a, b) := scaled (m * n) 1 (-(q + r))
    ofRatio (s != t) a b
  | _, _ => .nan

/-- Whether the two are the same number: zeros of both signs are, and so is `nan`
with itself. -/
def same : Binary64 → Binary64 → Bool
  | .finite s m q, .finite t n r => m == n && q == r && (s == t || m == 0)
  | .infinite s, .infinite t => s == t
  | .nan, .nan => true
  | _, _ => false

/-! ## The shortest decimal -/

/-- The reals that round to `m · 2 ^ q`, as numerators over `4 · 2 ^ (-q)`: from the
first to the second, ends included exactly if `m` is even. -/
def neighbourhood (m : Nat) (q : Int) : Nat × Nat :=
  (if m = Nat.pow 2 52 ∧ leastExponent < q then 4 * m - 1 else 4 * m - 2, 4 * m + 2)

/-- The greatest power of ten that is at most `a / b`. -/
def magnitude (a b : Nat) : Int :=
  let e : Int := ((Decimal.digits a).length : Int) - (Decimal.digits b).length
  let isAtMost : Bool :=
    if 0 ≤ e then b * Nat.pow 10 e.toNat ≤ a else b ≤ a * Nat.pow 10 (-e).toNat
  if isAtMost then e else e - 1

/-- Which of two equally near decimals is taken: the one whose last digit is even, or
the greater. -/
inductive Tie
  | toEven
  | up
  deriving DecidableEq, Repr

def Tie.takesLower (t : Tie) (k : Nat) : Bool :=
  match t with
  | .toEven => k % 2 == 0
  | .up => false

/-- The multiple of `10 ^ e` nearest to `m · 2 ^ q` among its two neighbours on that
grid that round back to it. -/
def onGrid? (tie : Tie) (m : Nat) (q e : Int) : Option Nat :=
  let (lo, hi) := neighbourhood m q
  let (n, d) := scaled 1 4 (-q)
  let (up, down) := if 0 ≤ e then (Nat.pow 10 e.toNat, 1) else (1, Nat.pow 10 (-e).toNat)
  -- the double is `4 m n / d`, a grid point is `k · up / down`: compare over `d · down`
  let value := 4 * m * n * down
  let unit := up * d
  let inside (k : Nat) : Bool :=
    let x := k * unit
    let l := lo * n * down
    let h := hi * n * down
    if m % 2 = 0 then l ≤ x && x ≤ h else l < x && x < h
  let k := value / unit
  match inside k && k != 0, inside (k + 1) with
  | true, true =>
    let below := value - k * unit
    let above := (k + 1) * unit - value
    some (if below < above ∨ (below = above ∧ tie.takesLower k) then k else k + 1)
  | true, false => some k
  | false, true => some (k + 1)
  | false, false => none

/-- The first grid from `count` digits on that has a point rounding back; seventeen
digits always have one. -/
def firstGrid (tie : Tie) (m : Nat) (q top : Int) : Nat → Nat → Nat × Int
  | 0, _ => (0, 0)
  | fuel + 1, count =>
    let e := top + 1 - count
    match onGrid? tie m q e with
    | some k => (k, e)
    | none => firstGrid tie m q top fuel (count + 1)

/-- The shortest decimal that rounds to the finite double `± m · 2 ^ q`. -/
def shortest (tie : Tie) (negative : Bool) (m : Nat) (q : Int) : Decimal :=
  if m = 0 then ⟨negative, 0, 0⟩
  else
    let (a, b) := scaled m 1 (-q)
    let (k, e) := firstGrid tie m q (magnitude a b) 17 1
    (⟨negative, k, e⟩ : Decimal).reduce

end Binary64

end LintGloss
