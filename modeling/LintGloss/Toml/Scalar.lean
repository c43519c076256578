import LintGloss.Decimal.Binary64
import LintGloss.Text.Digit
/-!
# Bare values in TOML

Booleans, numbers, dates and times: all values that are written without quotes and
brackets.  `isBareValue` says which texts are one.  An integer has to fit 64 bits
with its sign, and a decimal has to be within the doubles.
-/

namespace LintGloss.Toml

/-! ## Numbers -/

/-- Digits without the low lines that may stand between two of them. -/
def digits? (isDigit : Char → Bool) : List Char → Option (List Char)
  | [] => none
  | [c] => if isDigit c then some [c] else none
  | c :: '_' :: rest | c :: rest =>
    if isDigit c then (digits? isDigit rest).map (c :: ·) else none

/-- The sign in front, as whether it is a minus, and the rest. -/
def sign (s : List Char) : Bool × List Char :=
  match s with
  | '-' :: s => (true, s)
  | '+' :: s => (false, s)
  | s => (false, s)

/-- Digits that do not start with a needless zero. -/
def whole? (s : List Char) : Option (List Char) := do
  let ds ← digits? Char.isDigit s
  if ds.head? = some '0' ∧ ds.length ≠ 1 then none else some ds

/-- The number that the digits of a base write. -/
def based? (base : Nat) (s : List Char) : Option Nat := do
  Text.basedValue? base (← digits? (fun c => (Text.hexDigit? c).isSome) s)

def isInteger (s : List Char) : Bool :=
  match s with
  | '0' :: 'x' :: s => (based? 16 s).any (· < Nat.pow 2 63)
  | '0' :: 'o' :: s => (based? 8 s).any (· < Nat.pow 2 63)
  | '0' :: 'b' :: s => (based? 2 s).any (· < Nat.pow 2 63)
  | s =>
    let (negative, s) := sign s
    (whole? s).any fun ds => Text.decimalValue ds < Nat.pow 2 63 + if negative then 1 else 0

/-- The exponent after its `e`. -/
def exponent? (s : List Char) : Option Int := do
  let (negative, s) := sign s
  let n := Text.decimalValue (← digits? Char.isDigit s)
  some (if negative then -n else n)

/-- The value of a decimal with a point, an exponent or both. -/
def decimal? (s : List Char) : Option Decimal := do
  let (negative, s) := sign s
  let (mantissa, e) := s.span fun c => c ≠ 'e' && c ≠ 'E'
  let (whole, fraction) := mantissa.span (· ≠ '.')
  if fraction = [] ∧ e = [] then none
  else
    let w ← whole? whole
    let f ← if fraction = [] then some [] else digits? Char.isDigit fraction.tail
    let e ← if e = [] then some 0 else exponent? e.tail
    some ⟨negative, Text.decimalValue (w ++ f), e - f.length⟩

def isReal (s : List Char) : Bool :=
  (sign s).2 = "inf".toList || (sign s).2 = "nan".toList ||
    (decimal? s).any fun d => (Binary64.ofDecimal d).isFinite

/-! ## Dates and times -/

/-- The number that exactly so many digits at the front write, and what follows them. -/
def fixedDigits? (n : Nat) (s : List Char) : Option (Nat × List Char) :=
  let (ds, rest) := s.span Char.isDigit
  if ds.length = n then some (Text.decimalValue ds, rest) else none

/-- Drops a character that has to be there. -/
def expect? (c : Char) : List Char → Option (List Char)
  | d :: rest => if d = c then some rest else none
  | [] => none

def isLeapYear (y : Nat) : Bool := y % 4 == 0 && (y % 100 != 0 || y % 400 == 0)

def daysIn (year month : Nat) : Nat :=
  if month = 2 then if isLeapYear year then 29 else 28
  else if month ∈ [4, 6, 9, 11] then 30
  else 31

/-- What follows a date. -/
def afterDate? (s : List Char) : Option (List Char) := do
  let (year, s) ← fixedDigits? 4 s
  let (month, s) ← fixedDigits? 2 (← expect? '-' s)
  let (day, s) ← fixedDigits? 2 (← expect? '-' s)
  if 1 ≤ month ∧ month ≤ 12 ∧ 1 ≤ day ∧ day ≤ daysIn year month then some s else none

/-- What follows the seconds, which may be left out, and their fraction.  A minute can have a
leap second. -/
def afterSeconds? (s : List Char) : Option (List Char) :=
  match s with
  | ':' :: s => do
    let (second, s) ← fixedDigits? 2 s
    if 60 < second then none
    else match s with
      | '.' :: s =>
        let (ds, s) := s.span Char.isDigit
        if ds = [] then none else some s
      | s => some s
  | s => some s

/-- What follows hours and minutes. -/
def afterMinutes? (s : List Char) : Option (List Char) := do
  let (hour, s) ← fixedDigits? 2 s
  let (minute, s) ← fixedDigits? 2 (← expect? ':' s)
  if hour ≤ 23 ∧ minute ≤ 59 then some s else none

def afterTime? (s : List Char) : Option (List Char) := do afterSeconds? (← afterMinutes? s)

/-- Whether the text is an offset from universal time, or nothing. -/
def isOffset (s : List Char) : Bool :=
  match s with
  | [] | ['Z'] | ['z'] => true
  | '+' :: s | '-' :: s => afterMinutes? s = some []
  | _ => false

/-- Whether the text is a time, a date, or a date and a time with or without an offset. -/
def isDateTime (s : List Char) : Bool :=
  afterTime? s = some [] ||
    match afterDate? s with
    | some [] => true
    | some (c :: s) => c ∈ ['T', 't', ' '] && (afterTime? s).any isOffset
    | none => false

/-- Whether a text is a value that is written without quotes and brackets. -/
def isBareValue (s : List Char) : Bool :=
  s = "true".toList || s = "false".toList || isInteger s || isReal s || isDateTime s

end LintGloss.Toml
