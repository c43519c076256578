import LintGloss.Proofs.Json.Lexer
import LintGloss.Text.Blank
import Mathlib.Data.List.Basic
/-!
# Spellings

One token can be written in many ways: a number with a point or an exponent, a character of a string as itself, by a
short escape, by one unit of 16 bits or by two.  Each way is read as the token (`next?_of_spelledBy`), and so a text that
spells some tokens, with spaces wherever they can stand, has these tokens (`Spelled.lexes`).
-/

namespace LintGloss.Json

/-! ## Numbers -/

def IsDigits (ds : List Char) : Prop := ds ≠ [] ∧ ∀ d ∈ ds, d.isDigit = true

/-- The digits after the point, with the point if there are any. -/
inductive SpellsFraction : List Char → List Char → Prop
  | none : SpellsFraction [] []
  | point {ds : List Char} (hds : IsDigits ds) : SpellsFraction ds ('.' :: ds)

/-- The exponent behind its mark; a plus sign can be written and left out. -/
inductive SpellsExponent : Option Int → List Char → Prop
  | none : SpellsExponent none []
  | plain {e : Char} {ds : List Char} (he : e = 'e' ∨ e = 'E') (hds : IsDigits ds) :
    SpellsExponent (some (Text.decimalValue ds)) (e :: ds)
  | plus {e : Char} {ds : List Char} (he : e = 'e' ∨ e = 'E') (hds : IsDigits ds) :
    SpellsExponent (some (Text.decimalValue ds)) (e :: '+' :: ds)
  | minus {e : Char} {ds : List Char} (he : e = 'e' ∨ e = 'E') (hds : IsDigits ds) :
    SpellsExponent (some (-Text.decimalValue ds)) (e :: '-' :: ds)

/-- A number as it is written.  A zero in front is the only digit before the point. -/
inductive Numeral.Spells : Numeral → List Char → Prop
  | intro (negative : Bool) {whole fraction f e : List Char} {exponent : Option Int} (hwhole : IsDigits whole)
    (hzero : whole.head? = some '0' → whole.length = 1) (hf : SpellsFraction fraction f)
    (he : SpellsExponent exponent e) :
    Spells ⟨negative, whole, fraction, exponent⟩ ((if negative then ['-'] else []) ++ (whole ++ (f ++ e)))

theorem IsDigits.exists_cons {ds : List Char} (h : IsDigits ds) : ∃ d ds', ds = d :: ds' ∧ d.isDigit = true := by
  obtain ⟨d, ds', rfl⟩ := List.exists_cons_of_ne_nil h.1
  exact ⟨d, ds', rfl, h.2 d List.mem_cons_self⟩

theorem IsDigits.digits1 {ds s : List Char} (h : IsDigits ds) (hs : ∀ c ∈ s.head?, c.isDigit = false) :
    Json.digits1 (ds ++ s) = some (ds, s) :=
  digits1_eq_some_iff.2 ⟨h.1, rfl, h.2, hs⟩

theorem SpellsExponent.optionalExponent {x : Option Int} {e ext : List Char} (h : SpellsExponent x e)
    (hext : EndsNumber ext) : Json.optionalExponent (e ++ ext) = some (x, ext) := by
  have hdigit : ∀ c ∈ ext.head?, c.isDigit = false := fun c hc => (hext c hc).1
  cases h with
  | none => exact (mayTakeFront_optionalExponent (s := []) rfl).2 ext hext
  | plain he hds =>
    obtain ⟨d, ds, rfl, hd⟩ := hds.exists_cons
    have hsign : ∀ c : Char, c.isDigit = false → ∀ s, d :: (ds ++ ext) = c :: s → False := by
      intro c hc s h
      rw [(List.cons.inj h).1, hc] at hd
      cases hd
    have hexponent : exponent? (d :: (ds ++ ext)) = some ((Text.decimalValue (d :: ds) : Int), ext) := by
      rw [exponent?]
      · rw [← List.cons_append, hds.digits1 hdigit]
        rfl
      · exact hsign '-' (by decide)
      · exact hsign '+' (by decide)
    rw [List.cons_append, List.cons_append, Json.optionalExponent, if_pos he, hexponent]
    rfl
  | plus he hds =>
    rw [List.cons_append, List.cons_append, Json.optionalExponent, if_pos he, exponent?, hds.digits1 hdigit]
    rfl
  | minus he hds =>
    rw [List.cons_append, List.cons_append, Json.optionalExponent, if_pos he, exponent?, hds.digits1 hdigit]
    rfl

/-- An exponent neither goes on the digits before it nor is a point. -/
theorem SpellsExponent.head {x : Option Int} {e ext : List Char} (h : SpellsExponent x e) (hext : EndsNumber ext) :
    ∀ c ∈ (e ++ ext).head?, c.isDigit = false ∧ c ≠ '.' := by
  cases h with
  | none => exact fun c hc => ⟨(hext c hc).1, (hext c hc).2.1⟩
  | plain he | plus he | minus he =>
    intro c hc
    obtain rfl := Option.some.inj hc
    rcases he with rfl | rfl <;> decide

theorem SpellsFraction.optionalFraction {ds f s : List Char} (h : SpellsFraction ds f)
    (hs : ∀ c ∈ s.head?, c.isDigit = false ∧ c ≠ '.') : Json.optionalFraction (f ++ s) = some (ds, s) := by
  cases h with
  | none =>
    rw [List.nil_append, Json.optionalFraction]
    rintro s' rfl
    exact (hs '.' rfl).2 rfl
  | point hds =>
    rw [List.cons_append, Json.optionalFraction]
    exact hds.digits1 fun c hc => (hs c hc).1

theorem SpellsFraction.head {ds f s : List Char} (h : SpellsFraction ds f) (hs : ∀ c ∈ s.head?, c.isDigit = false) :
    ∀ c ∈ (f ++ s).head?, c.isDigit = false := by
  cases h with
  | none => exact hs
  | point hds =>
    intro c hc
    obtain rfl := Option.some.inj hc
    decide

/-- **A number is read as it is written**, where nothing goes on it. -/
theorem Numeral.Spells.numeral? {n : Numeral} {s ext : List Char} (h : n.Spells s) (hext : EndsNumber ext) :
    Json.numeral? (s ++ ext) = some (n, ext) := by
  cases h with
  | @intro negative whole fraction f e exponent hwhole hzero hf he =>
    have hhead := he.head hext
    have hunsigned : unsigned? negative (whole ++ (f ++ (e ++ ext))) =
        some (⟨negative, whole, fraction, exponent⟩, ext) := by
      have hone : ¬ (whole.head? = some '0' ∧ whole.length ≠ 1) := fun ⟨h0, h1⟩ => h1 (hzero h0)
      have hdigits : digits1 (whole ++ (f ++ (e ++ ext))) = some (whole, f ++ (e ++ ext)) :=
        hwhole.digits1 (hf.head fun c hc => (hhead c hc).1)
      simp only [unsigned?, hdigits, hf.optionalFraction hhead, he.optionalExponent hext, bind, Option.bind_some,
        if_neg hone]
    simp only [List.append_assoc]
    cases negative with
    | true => exact hunsigned
    | false =>
      obtain ⟨d, ds, rfl, hd⟩ := hwhole.exists_cons
      -- no digit is a minus sign
      rw [if_neg Bool.false_ne_true, List.nil_append, List.cons_append, Json.numeral?, ← List.cons_append]
      · exact hunsigned
      · rintro s' h'
        rw [(List.cons.inj h').1] at hd
        cases hd

/-! ## Strings -/

/-- What is written between quotes, and the characters that it means. -/
inductive Escaped : List Char → List Char → Prop
  | nil : Escaped [] []
  | raw {c : Char} {s t : List Char} (hc : 0x20 ≤ c.toNat) (hquote : c ≠ '"') (hslash : c ≠ '\\') (h : Escaped s t) :
    Escaped (c :: s) (c :: t)
  | short {e c : Char} {s t : List Char} (he : shortEscape? e = some c) (h : Escaped s t) :
    Escaped ('\\' :: e :: s) (c :: t)
  | unit {x₁ x₂ x₃ x₄ c : Char} {s t : List Char} (hc : Text.hexValue? [x₁, x₂, x₃, x₄] = some c.toNat)
    (h : Escaped s t) : Escaped ('\\' :: 'u' :: x₁ :: x₂ :: x₃ :: x₄ :: s) (c :: t)
  /-- A character beyond 16 bits, as ten bits of it over ten others. -/
  | pair {x₁ x₂ x₃ x₄ y₁ y₂ y₃ y₄ c : Char} {high low : Nat} {s t : List Char} (hhigh : high < 0x400) (hlow : low < 0x400)
    (hx : Text.hexValue? [x₁, x₂, x₃, x₄] = some (0xD800 + high))
    (hy : Text.hexValue? [y₁, y₂, y₃, y₄] = some (0xDC00 + low)) (hc : c.toNat = 0x10000 + high * 0x400 + low)
    (h : Escaped s t) :
    Escaped ('\\' :: 'u' :: x₁ :: x₂ :: x₃ :: x₄ :: '\\' :: 'u' :: y₁ :: y₂ :: y₃ :: y₄ :: s) (c :: t)

theorem join_unit {n : Nat} (hn : ¬ (0xD800 ≤ n ∧ n ≤ 0xDFFF)) {ps : List Piece} {t : List Char}
    (h : join ps = some t) : join (.unit n :: ps) = some (Char.ofNat n :: t) := by
  cases ps with
  | nil =>
    rw [join, if_neg hn, h]
    · rfl
    · exact fun _ _ h => by cases h
  | cons p ps =>
    cases p with
    | char c =>
      rw [join, if_neg hn, h]
      · rfl
      · exact fun _ _ h => by cases h
    | unit lo =>
      have hpair : ¬ (0xD800 ≤ n ∧ n ≤ 0xDBFF ∧ 0xDC00 ≤ lo ∧ lo ≤ 0xDFFF) := fun hp => hn ⟨hp.1, by omega⟩
      rw [join, if_neg hpair, if_neg hn, h]
      rfl

theorem join_pair {high low : Nat} (hhigh : high < 0x400) (hlow : low < 0x400) {ps : List Piece} {t : List Char}
    (h : join ps = some t) :
    join (.unit (0xD800 + high) :: .unit (0xDC00 + low) :: ps) =
      some (Char.ofNat (0x10000 + high * 0x400 + low) :: t) := by
  have hpair : 0xD800 ≤ 0xD800 + high ∧ 0xD800 + high ≤ 0xDBFF ∧ 0xDC00 ≤ 0xDC00 + low ∧ 0xDC00 + low ≤ 0xDFFF := by
    omega
  rw [join, if_pos hpair, h, Nat.add_sub_cancel_left, Nat.add_sub_cancel_left]
  rfl

theorem toNat_not_surrogate (c : Char) : ¬ (0xD800 ≤ c.toNat ∧ c.toNat ≤ 0xDFFF) := by
  have hvalid : c.toNat < 0xD800 ∨ 0xDFFF < c.toNat ∧ c.toNat < 0x110000 := c.valid
  omega

/-- **What is written for a string is read as its characters.** -/
theorem Escaped.exists_pieces {s t : List Char} (h : Escaped s t) (ext : List Char) :
    ∃ ps, pieces (s ++ '"' :: ext) = some (ps, ext) ∧ join ps = some t := by
  -- by the spelling: however a character is written, its pieces come in front of the others
  induction h with
  | nil => exact ⟨[], rfl, rfl⟩
  | @raw c s t hc hquote hslash h ih =>
    obtain ⟨ps, hps, hjoin⟩ := ih
    have hgood : ¬ (c.toNat < 0x20 ∨ c = '\\') := not_or.2 ⟨by omega, hslash⟩
    refine ⟨.char c :: ps, ?_, by rw [join, hjoin]; rfl⟩
    rw [List.cons_append, pieces, if_neg hgood, hps]
    · rfl
    · exact hquote
    · exact fun _ _ _ _ _ h => absurd h hslash
    · exact fun _ _ h => absurd h hslash
  | @short e c s t he h ih =>
    obtain ⟨ps, hps, hjoin⟩ := ih
    have hu : e ≠ 'u' := by
      rintro rfl
      cases he
    refine ⟨.char c :: ps, ?_, by rw [join, hjoin]; rfl⟩
    rw [List.cons_append, List.cons_append, pieces, he, hps]
    · rfl
    · exact fun _ _ _ _ _ h => absurd h hu
  | @unit x₁ x₂ x₃ x₄ c s t hc h ih =>
    obtain ⟨ps, hps, hjoin⟩ := ih
    have hunit := join_unit (toNat_not_surrogate c) hjoin
    rw [Char.ofNat_toNat] at hunit
    refine ⟨.unit c.toNat :: ps, ?_, hunit⟩
    simp only [List.cons_append, pieces, hc, hps, bind, Option.bind_some]
  | @pair x₁ x₂ x₃ x₄ y₁ y₂ y₃ y₄ c high low s t hhigh hlow hx hy hc h ih =>
    obtain ⟨ps, hps, hjoin⟩ := ih
    have hpair := join_pair hhigh hlow hjoin
    rw [← hc, Char.ofNat_toNat] at hpair
    refine ⟨.unit (0xD800 + high) :: .unit (0xDC00 + low) :: ps, ?_, hpair⟩
    simp only [List.cons_append, pieces, hx, hy, hps, bind, Option.bind_some]

/-! ## Tokens -/

namespace Token

def isNumber : Token → Bool
  | int _ | real _ => true
  | _ => false

def isFixed : Token → Bool
  | int _ | real _ | str _ => false
  | _ => true

inductive SpelledBy : Token → List Char → Prop
  | fixed {t : Token} (ht : t.isFixed = true) : SpelledBy t t.text
  | number {n : Numeral} {t : Token} {s : List Char} (hs : n.Spells s) (ht : n.toToken? = some t) : SpelledBy t s
  | str {s t : List Char} (h : Escaped s t) : SpelledBy (.str (String.ofList t)) ('"' :: (s ++ ['"']))

theorem isNumber_of_toToken? {n : Numeral} {t : Token} (h : n.toToken? = some t) : t.isNumber = true := by
  unfold Numeral.toToken? at h
  simp only at h
  split at h
  · exact Option.some.inj h ▸ rfl
  · split at h
    · exact Option.some.inj h ▸ rfl
    · obtain ⟨-, h⟩ := Option.ite_none_right_eq_some.1 h
      exact Option.some.inj h ▸ rfl

/-- **A token is read however it is spelled.** -/
theorem next?_of_spelledBy {t : Token} {s ext : List Char} (h : t.SpelledBy s)
    (hext : t.isNumber = true → EndsNumber ext) : next? (s ++ ext) = some (t, ext) := by
  cases h with
  | fixed ht =>
    cases t with
    | int | real | str => cases ht
    | bool b => cases b <;> rfl
    | _ => rfl
  | @number n _ _ hs ht =>
    have hnumeral := hs.numeral? (hext (isNumber_of_toToken? ht))
    obtain ⟨c, s', hs', hc⟩ := exists_head_of_numeral? hnumeral
    rw [hs'] at hnumeral ⊢
    exact next?_of_numeral? hc hnumeral ht
  | @str s t h =>
    obtain ⟨ps, hps, hjoin⟩ := h.exists_pieces ext
    have htext : '"' :: (s ++ ['"']) ++ ext = '"' :: (s ++ '"' :: ext) := by simp
    rw [htext, next?, hps]
    simp [hjoin]

end Token

/-! ## Texts -/

/-- A text that spells some tokens, with spaces wherever they can stand.  Right behind a number nothing may go on it. -/
inductive Spelled : List Char → List Token → Prop
  | nil : Spelled [] []
  | space {c : Char} {s : List Char} {ts : List Token} (hc : isSpace c = true) (h : Spelled s ts) : Spelled (c :: s) ts
  | token {t : Token} {u s : List Char} {ts : List Token} (hu : t.SpelledBy u) (hend : t.isNumber = true → EndsNumber s)
    (h : Spelled s ts) : Spelled (u ++ s) (t :: ts)

theorem next?_space {c : Char} (hc : isSpace c = true) (s : List Char) : Token.next? (c :: s) = none := by
  simp only [isSpace, Bool.or_eq_true, beq_iff_eq] at hc
  rcases hc with ((rfl | rfl) | rfl) | rfl <;> rfl

theorem skipSpaces_of_next? {s : List Char} {p : Token × List Char} (h : Token.next? s = some p) :
    skipSpaces s = s := by
  cases s with
  | nil => rfl
  | cons c s =>
    refine List.dropWhile_cons_of_neg fun hc => ?_
    rw [next?_space hc] at h
    cases h

theorem Spelled.behind_spaces {u : List Char} {us : List Token} (hu : Spelled u us) :
    ∀ {s : List Char}, (∀ c ∈ s, isSpace c = true) → Spelled (s ++ u) us
  | [], _ => hu
  | c :: s, h => by
    obtain ⟨hc, hs⟩ := List.forall_mem_cons.1 h
    exact .space hc (hu.behind_spaces hs)

/-- **A text has the tokens that it spells.** -/
theorem Spelled.lexes {s : List Char} {ts : List Token} (h : Spelled s ts) : Lexes s ts := by
  induction h with
  | nil => exact .nil rfl
  | @space c s ts hc h ih =>
    have hskip : skipSpaces (c :: s) = skipSpaces s := List.dropWhile_cons_of_pos hc
    cases ih with
    | nil hnil => exact .nil (hskip.trans hnil)
    | cons hnext hts => exact .cons (hskip ▸ hnext) hts
  | token hu hend h ih =>
    have hnext := Token.next?_of_spelledBy hu hend
    exact .cons (by rw [skipSpaces_of_next? hnext, hnext]) ih

/-! ## Blanks around a text -/

theorem isBlank_of_isSpace {c : Char} (hc : isSpace c = true) : Text.isBlank c = true := by
  simp only [isSpace, Bool.or_eq_true, beq_iff_eq] at hc
  rcases hc with ((rfl | rfl) | rfl) | rfl <;> decide

theorem isBlank_of_isDigit {c : Char} (hc : c.isDigit = true) : Text.isBlank c = false := by
  have hrange : 48 ≤ c.toNat ∧ c.toNat ≤ 57 := by
    simpa [Char.isDigit, UInt32.le_iff_toNat_le] using hc
  simp only [Text.isBlank, Text.blankRanges, List.any_cons, List.any_nil, Bool.or_eq_false_iff, Bool.and_eq_false_iff,
    decide_eq_false_iff_not, and_true]
  omega

theorem Numeral.Spells.isBlank {n : Numeral} {s : List Char} (h : n.Spells s) : ∀ c ∈ s, Text.isBlank c = false := by
  have hdigits {ds : List Char} (hds : IsDigits ds) : ∀ c ∈ ds, Text.isBlank c = false :=
    fun c hc => isBlank_of_isDigit (hds.2 c hc)
  cases h with
  | @intro negative whole fraction f e exponent hwhole hzero hf he =>
    refine List.forall_mem_append.2 ⟨?_, List.forall_mem_append.2 ⟨hdigits hwhole, List.forall_mem_append.2 ⟨?_, ?_⟩⟩⟩
    · cases negative with
      | true => exact List.forall_mem_singleton.2 (by decide)
      | false => exact List.forall_mem_nil _
    · cases hf with
      | none => exact List.forall_mem_nil _
      | point hds => exact List.forall_mem_cons.2 ⟨by decide, hdigits hds⟩
    · cases he with
      | none => exact List.forall_mem_nil _
      | plain he hds =>
        refine List.forall_mem_cons.2 ⟨?_, hdigits hds⟩
        rcases he with rfl | rfl <;> decide
      | plus he hds | minus he hds =>
        refine List.forall_mem_cons.2 ⟨?_, List.forall_mem_cons.2 ⟨by decide, hdigits hds⟩⟩
        rcases he with rfl | rfl <;> decide

/-- A text that begins and ends with what is not blank, if it is not empty. -/
structure HasFirmEnds (s : List Char) : Prop where
  head : ∀ c ∈ s.head?, Text.isBlank c = false
  last : ∀ c ∈ s.getLast?, Text.isBlank c = false

theorem Token.SpelledBy.hasFirmEnds {t : Token} {s : List Char} (h : t.SpelledBy s) : HasFirmEnds s := by
  cases h with
  | fixed ht =>
    cases t with
    | int | real | str => cases ht
    | bool b => cases b <;> constructor <;> rintro c ⟨⟩ <;> decide
    | _ => constructor <;> rintro c ⟨⟩ <;> decide
  | number hs ht =>
    exact ⟨fun c hc => hs.isBlank c (List.mem_of_mem_head? hc), fun c hc => hs.isBlank c (List.mem_of_mem_getLast? hc)⟩
  | str h =>
    constructor
    · rintro c ⟨⟩
      decide
    · intro c hc
      rw [← List.cons_append, List.getLast?_concat] at hc
      obtain rfl := Option.some.inj hc
      decide

theorem Token.SpelledBy.ne_nil {t : Token} {s : List Char} (h : t.SpelledBy s) : s ≠ [] := by
  rintro rfl
  have hread := next?_of_spelledBy h fun _ => endsNumber_nil
  cases hread

/-- The spaces around the tokens of a text are set apart. -/
theorem Spelled.exists_core {s : List Char} {ts : List Token} (h : Spelled s ts) :
    ∃ before core after, s = before ++ (core ++ after) ∧ (∀ c ∈ before, isSpace c = true) ∧
      (∀ c ∈ after, isSpace c = true) ∧ Spelled core ts ∧ HasFirmEnds core := by
  induction h with
  | nil => exact ⟨[], [], [], rfl, List.forall_mem_nil _, List.forall_mem_nil _, .nil, by constructor <;> rintro c ⟨⟩⟩
  | @space c s ts hc h ih =>
    obtain ⟨before, core, after, rfl, hbefore, hafter, hcore, hends⟩ := ih
    exact ⟨c :: before, core, after, rfl, List.forall_mem_cons.2 ⟨hc, hbefore⟩, hafter, hcore, hends⟩
  | @token t u s ts hu hend h ih =>
    obtain ⟨before, core, after, rfl, hbefore, hafter, hcore, hends⟩ := ih
    by_cases hnil : core = []
    · -- nothing but spaces follows the token
      subst hnil
      refine ⟨[], u ++ [], before ++ after, by simp, List.forall_mem_nil _, List.forall_mem_append.2 ⟨hbefore, hafter⟩,
        .token hu (fun _ => endsNumber_nil) hcore, ?_⟩
      rw [List.append_nil]
      exact hu.hasFirmEnds
    · refine ⟨[], u ++ (before ++ core), after, by simp, List.forall_mem_nil _, hafter, .token hu ?_ ?_, ?_, ?_⟩
      · intro hnumber c hc
        refine hend hnumber c ?_
        have hhead : (before ++ core ++ after).head? = (before ++ core).head? :=
          List.head?_append_of_ne_nil _ (by simp [hnil])
        rw [← List.append_assoc, hhead]
        exact hc
      · exact hcore.behind_spaces hbefore
      · intro c hc
        rw [List.head?_append_of_ne_nil _ hu.ne_nil] at hc
        exact hu.hasFirmEnds.head c hc
      · intro c hc
        rw [← List.append_assoc, List.getLast?_append_of_ne_nil _ hnil] at hc
        exact hends.last c hc

theorem Spelled.trim {before s after : List Char} {ts : List Token} (h : Spelled s ts)
    (hbefore : ∀ c ∈ before, Text.isBlank c = true) (hafter : ∀ c ∈ after, Text.isBlank c = true) :
    Spelled (Text.trim (before ++ (s ++ after))) ts := by
  obtain ⟨before', core, after', rfl, hbefore', hafter', hcore, hends⟩ := h.exists_core
  have hleft : ∀ c ∈ before ++ before', Text.isBlank c = true :=
    List.forall_mem_append.2 ⟨hbefore, fun c hc => isBlank_of_isSpace (hbefore' c hc)⟩
  have hright : ∀ c ∈ after' ++ after, Text.isBlank c = true :=
    List.forall_mem_append.2 ⟨fun c hc => isBlank_of_isSpace (hafter' c hc), hafter⟩
  have htrim := Text.trim_append hleft hright hends.head hends.last
  simp only [List.append_assoc] at htrim ⊢
  rwa [htrim]

end LintGloss.Json
