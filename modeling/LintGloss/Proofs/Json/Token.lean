import LintGloss.Proofs.Json.Spelling
/-!
# Written tokens are read

The text of a token is one of its spellings (`spelledBy_text`), and so it is read as that token, whatever stands behind
it, if only nothing goes on a number.  Integers have to fit 64 bits, and reals the doubles.  A string may hold any
characters.
-/

namespace LintGloss.Json

/-! ## Numbers -/

theorem isDigit_of_mem_digits {n : Nat} {c : Char} (h : c ∈ Decimal.digits n) : c.isDigit = true :=
  Nat.isDigit_of_mem_toDigits (by decide) (by decide) h

theorem digits_ne_nil (n : Nat) : Decimal.digits n ≠ [] := Nat.toDigits_ne_nil

theorem isDigits_digits (n : Nat) : IsDigits (Decimal.digits n) := ⟨digits_ne_nil n, fun _ hd => isDigit_of_mem_digits hd⟩

theorem decimalValue_digits (n : Nat) : Text.decimalValue (Decimal.digits n) = n := by
  have h : Nat.ofDigitChars 10 (Nat.toDigits 10 n) 0 = n := Nat.ofDigitChars_toDigits (by decide) (by decide)
  simpa only [Nat.ofDigitChars, Text.decimalValue, Decimal.digits, Nat.mul_comm] using h

theorem head?_digits_ne_zero (n : Nat) (hn : 0 < n) : (Decimal.digits n).head? ≠ some '0' := by
  induction n using Nat.strongRecOn with
  | ind n ih =>
    rw [Decimal.digits, Nat.toDigits_eq_if (by decide)]
    split
    · rename_i hlt
      have hall : ∀ m < 10, 0 < m → [Nat.digitChar m].head? ≠ some '0' := by decide
      exact hall n hlt hn
    · rename_i hge
      -- the first digit is that of the tenth part
      have hhead := ih (n / 10) (by omega) (by omega)
      obtain ⟨d, ds, hds⟩ := List.exists_cons_of_ne_nil (digits_ne_nil (n / 10))
      rw [hds] at hhead
      rw [← Decimal.digits, hds]
      exact hhead

theorem length_digits_of_head? {n : Nat} (h : (Decimal.digits n).head? = some '0') : (Decimal.digits n).length = 1 := by
  by_cases hn : 0 < n
  · exact absurd h (head?_digits_ne_zero n hn)
  · have h0 : n = 0 := by omega
    rw [h0]
    rfl

theorem ofInt_eq_sign_digits (n : Int) :
    Decimal.ofInt n = (if decide (n < 0) then ['-'] else []) ++ Decimal.digits n.natAbs := by
  cases n with
  | ofNat k => rfl
  | negSucc k =>
    rw [decide_eq_true (Int.negSucc_lt_zero k)]
    rfl

theorem spells_ofInt (n : Int) : Numeral.Spells ⟨n < 0, Decimal.digits n.natAbs, [], none⟩ (Decimal.ofInt n) := by
  have h := Numeral.Spells.intro (n < 0) (isDigits_digits n.natAbs) length_digits_of_head? .none .none
  rwa [List.append_nil, List.append_nil, ← ofInt_eq_sign_digits] at h

theorem spellsExponent_ofInt (x : Int) : SpellsExponent (some x) ('e' :: Decimal.ofInt x) := by
  cases x with
  | ofNat k =>
    have h := SpellsExponent.plain (e := 'e') (.inl rfl) (isDigits_digits k)
    rwa [decimalValue_digits] at h
  | negSucc k =>
    have h := SpellsExponent.minus (e := 'e') (.inl rfl) (isDigits_digits (k + 1))
    rwa [decimalValue_digits] at h

theorem spells_real (d : Decimal) :
    Numeral.Spells ⟨d.negative, Decimal.digits d.units, [], some d.exponent⟩ (Token.real d).text := by
  have h := Numeral.Spells.intro d.negative (isDigits_digits d.units) length_digits_of_head? .none
    (spellsExponent_ofInt d.exponent)
  rw [Token.text, Decimal.signText, List.append_assoc]
  exact h

/-- The numbers that a signed or an unsigned integer of 64 bits can be. -/
def Fits64 (n : Int) : Prop := -0x8000000000000000 ≤ n ∧ n < 0x10000000000000000

theorem toToken?_digits {k : Nat} (hk : k < 0x10000000000000000) :
    (⟨false, Decimal.digits k, [], none⟩ : Numeral).toToken? = some (.int k) := by
  have hpow : k < Nat.pow 2 64 := hk
  simp [Numeral.toToken?, decimalValue_digits, hpow]

theorem toToken?_negative_digits {k : Nat} (hpos : 0 < k) (hk : k ≤ 0x8000000000000000) :
    (⟨true, Decimal.digits k, [], none⟩ : Numeral).toToken? = some (.int (-k)) := by
  have hpow : k ≤ Nat.pow 2 63 := hk
  simp [Numeral.toToken?, decimalValue_digits, hpos, hpow]

theorem toToken?_ofInt {n : Int} (hn : Fits64 n) :
    (⟨n < 0, Decimal.digits n.natAbs, [], none⟩ : Numeral).toToken? = some (.int n) := by
  obtain ⟨hlow, hhigh⟩ := hn
  cases n with
  | ofNat k =>
    have hk : k < 0x10000000000000000 := by
      rw [Int.ofNat_eq_natCast] at hhigh
      omega
    exact toToken?_digits hk
  | negSucc k =>
    have hk : k + 1 ≤ 0x8000000000000000 := by
      rw [Int.negSucc_eq] at hlow
      omega
    rw [decide_eq_true (Int.negSucc_lt_zero k)]
    exact toToken?_negative_digits (Nat.succ_pos k) hk

/-! ## Strings -/

theorem hexValue?_control : ∀ n < 0x20, Text.hexValue? ['0', '0', lowerHex (n / 16), lowerHex (n % 16)] = some n := by
  decide

theorem Escaped.escapeChar (c : Char) {s t : List Char} (h : Escaped s t) :
    Escaped (Json.escapeChar c ++ s) (c :: t) := by
  unfold Json.escapeChar
  split
  case h_8 hquote hslash _ _ _ _ _ =>
    split
    · rename_i hc
      exact .unit (hexValue?_control _ hc) h
    · rename_i hc
      exact .raw (Nat.le_of_not_lt hc) hquote hslash h
  all_goals exact .short rfl h

theorem escaped_flatMap : ∀ s : List Char, Escaped (s.flatMap escapeChar) s
  | [] => .nil
  | c :: s => by
    rw [List.flatMap_cons]
    exact (escaped_flatMap s).escapeChar c

/-! ## All tokens -/

namespace Token

/-- A token that is not lost in a text: no real, and an integer only of 64 bits. -/
def IsPlain : Token → Prop
  | int n => Fits64 n
  | real _ => False
  | _ => True

/-- A token whose text is read: an integer of 64 bits, a real that a double holds, or no number. -/
def IsReadable : Token → Prop
  | int n => Fits64 n
  | real d => (⟨d.negative, Decimal.digits d.units, [], some d.exponent⟩ : Numeral).inRange = true
  | _ => True

instance : DecidablePred IsReadable
  | int n => inferInstanceAs (Decidable (-0x8000000000000000 ≤ n ∧ n < 0x10000000000000000))
  | real d => inferInstanceAs
      (Decidable ((⟨d.negative, Decimal.digits d.units, [], some d.exponent⟩ : Numeral).inRange = true))
  | arrOpen | arrClose | objOpen | objClose | comma | colon | null | bool _ | str _ => .isTrue trivial

theorem IsPlain.isReadable {t : Token} (h : t.IsPlain) : t.IsReadable := by
  cases t with
  | int => exact h
  | real => exact h.elim
  | _ => trivial

/-- **The text of a token spells it.** -/
theorem spelledBy_text {t : Token} (ht : t.IsReadable) : t.SpelledBy t.text := by
  cases t with
  | int n => exact .number (spells_ofInt n) (toToken?_ofInt ht)
  | real d =>
    have htoken : (⟨d.negative, Decimal.digits d.units, [], some d.exponent⟩ : Numeral).toToken? = some (.real d) := by
      have hrange : (⟨d.negative, Decimal.digits d.units, [], some d.exponent⟩ : Numeral).inRange = true := ht
      simp [Numeral.toToken?, Numeral.toDecimal, hrange, decimalValue_digits]
    exact .number (spells_real d) htoken
  | str s =>
    have h := SpelledBy.str (escaped_flatMap s.toList)
    rwa [String.ofList_toList] at h
  | _ => exact .fixed rfl

end Token

end LintGloss.Json
