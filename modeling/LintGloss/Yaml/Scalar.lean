import LintGloss.Text.Digit
import LintGloss.Yaml.Basic
/-!
# Plain scalars

A scalar without quotes is null, a boolean, an integer, a real or a string, by
what it spells; `resolve?` tries them in this order.  Digits that start with a
needless zero are a string.  An integer of more than 64 bits has no value unless
it has more than 128, and then it is read as a real.
-/

namespace LintGloss.Yaml.Scalar

/-- Drops one plus sign from the front. -/
def dropPlus : List Char → List Char
  | '+' :: s => s
  | s => s

def startsWithSign : List Char → Bool
  | '+' :: _ | '-' :: _ => true
  | _ => false

def isNull (s : List Char) : Bool :=
  s ∈ ["null".toList, "Null".toList, "NULL".toList, "~".toList]

def bool? (s : List Char) : Option Bool :=
  if s ∈ ["true".toList, "True".toList, "TRUE".toList] then some true
  else if s ∈ ["false".toList, "False".toList, "FALSE".toList] then some false
  else none

/-- More than one digit, with a zero in front, after one sign at most. -/
def isZeroPadded (s : List Char) : Bool :=
  let s := match s with
    | '+' :: r | '-' :: r => r
    | s => s
  match s with
  | '0' :: c :: rest => (c :: rest).all Char.isDigit
  | _ => false

/-! ## Integers -/

/-- The number that the digits of a base write; there has to be one. -/
def digits? (base : Nat) (s : List Char) : Option Nat :=
  if s = [] then none else Text.basedValue? base s

/-- The base that a mark such as `0x` announces, and the digits after it. -/
def marked? : List Char → Option (Nat × List Char)
  | '0' :: 'x' :: s => some (16, s)
  | '0' :: 'o' :: s => some (8, s)
  | '0' :: 'b' :: s => some (2, s)
  | _ => none

def unsigned? (s : List Char) : Option Nat :=
  let u := dropPlus s
  match marked? u with
  | some (base, r) => digits? base r
  | none => if startsWithSign u || isZeroPadded s then none else digits? 10 u

/-- How much is below zero, for an integer with a minus sign. -/
def negative? : List Char → Option Nat
  | '-' :: s =>
    match marked? s with
    | some (base, r) => digits? base r
    | none => if isZeroPadded ('-' :: s) then none else digits? 10 s
  | _ => none

/-- What a scalar is as an integer. -/
inductive Size
  /-- It spells no integer, or one of more than 128 bits. -/
  | no
  | fits (n : Int)
  /-- An integer of more than 64 bits. -/
  | tooLarge
  deriving DecidableEq, Repr

def size (s : List Char) : Size :=
  match unsigned? s, negative? s with
  | some n, _ =>
    if n < Nat.pow 2 64 then .fits n else if n < Nat.pow 2 128 then .tooLarge else .no
  | none, some n =>
    if n ≤ Nat.pow 2 63 then .fits (-n) else if n ≤ Nat.pow 2 127 then .tooLarge else .no
  | none, none => .no

/-! ## Reals -/

/-- The decimal that a scalar writes: digits with a point among them or at either end,
and an exponent. -/
def decimal? (s : List Char) : Option Decimal := do
  let (negative, s) := match s with
    | '-' :: r => (true, r)
    | '+' :: r => (false, r)
    | s => (false, s)
  let (whole, s) := s.span Char.isDigit
  let (fraction, s) := match s with
    | '.' :: r => r.span Char.isDigit
    | s => ([], s)
  if whole = [] ∧ fraction = [] then none
  else
    let exponent : Int ← match s with
      | [] => some 0
      | e :: r =>
        if e = 'e' ∨ e = 'E' then
          match r with
          | '-' :: r => (digits? 10 r).map fun n => -(n : Int)
          | '+' :: r => (digits? 10 r).map fun n => (n : Int)
          | r => (digits? 10 r).map fun n => (n : Int)
        else none
    some ⟨negative, Text.decimalValue (whole ++ fraction), exponent - fraction.length⟩

/-- The real that a scalar spells.  A decimal beyond the doubles spells none. -/
def real? (s : List Char) : Option Binary64 :=
  let u := dropPlus s
  if s ≠ u ∧ startsWithSign u then none
  else if u ∈ [".inf".toList, ".Inf".toList, ".INF".toList] then some (.infinite false)
  else if s ∈ ["-.inf".toList, "-.Inf".toList, "-.INF".toList] then some (.infinite true)
  else if s ∈ [".nan".toList, ".NaN".toList, ".NAN".toList] then some .nan
  else do
    let x := Binary64.ofDecimal (← decimal? u)
    if x.isFinite then some x else none

/-! ## Resolution -/

/-- The value of a plain scalar. -/
def resolve? (s : List Char) : Option Yaml :=
  if s = [] ∨ isNull s then some .null
  else match bool? s with
  | some b => some (.bool b)
  | none =>
    match size s with
    | .fits n => some (.int n)
    | .tooLarge => none
    | .no =>
      match if isZeroPadded s then none else real? s with
      | some x => some (.real x)
      | none => some (.str (String.ofList s))

/-- The namespace of the tags that YAML itself defines. -/
def coreTag (name : String) : List Char := ("tag:yaml.org,2002:" ++ name).toList

/-- The value of a scalar under a global tag.  Four tags of YAML ask for a kind of value
and refuse a text that does not spell one; under any other tag it is a string. -/
def resolveTagged? (tag s : List Char) : Option Yaml :=
  if tag = coreTag "bool" then (bool? s).map .bool
  else if tag = coreTag "int" then
    match size s with
    | .fits n => some (.int n)
    | _ => none
  else if tag = coreTag "float" then (real? s).map .real
  else if tag = coreTag "null" then if isNull s then some .null else none
  else some (.str (String.ofList s))

end LintGloss.Yaml.Scalar
