import LintGloss.Json.Token.Lexer
import LintGloss.Proofs.Text.Front
/-!
# Tokens one after another

A token at the front of a text is the same whatever follows the text, unless what follows can go on a number
(`takesFront_next?`).  Whether a text has tokens does not depend on the fuel (`lex_eq_some_iff`), and the tokens of two
texts in a row are those of the one and those of the other (`Lexes.append`).
-/

namespace LintGloss.Json

/-- A text at whose front a number has an end. -/
def EndsNumber (s : List Char) : Prop := ∀ c ∈ s.head?, c.isDigit = false ∧ c ≠ '.' ∧ c ≠ 'e' ∧ c ≠ 'E'

theorem endsNumber_cons {c : Char} (hc : c.isDigit = false ∧ c ≠ '.' ∧ c ≠ 'e' ∧ c ≠ 'E') (s : List Char) :
    EndsNumber (c :: s) := fun _ h => Option.some.inj h ▸ hc

theorem endsNumber_nil : EndsNumber [] := fun _ h => nomatch h

theorem EndsNumber.append {s u : List Char} (hs : EndsNumber s) (hu : EndsNumber u) : EndsNumber (s ++ u) := by
  cases s with
  | nil => exact hu
  | cons c s => exact hs

/-- A reading that takes something off the front of a text, and the same if more follows that ends a number. -/
def TakesFront {α : Type} (f : List Char → Option (α × List Char)) : Prop :=
  ∀ ⦃s rest : List Char⦄ ⦃a : α⦄, f s = some (a, rest) →
    rest.length < s.length ∧ ∀ ext, EndsNumber ext → f (s ++ ext) = some (a, rest ++ ext)

/-! ## Strings -/

theorem takesFront_pieces : TakesFront pieces := by
  intro s
  fun_induction pieces s with
  | case1 => intro rest ps h; cases h
  | case2 s =>
    intro rest ps h
    obtain ⟨rfl, rfl⟩ := Prod.mk.inj (Option.some.inj h)
    exact ⟨Nat.lt_succ_self _, fun ext _ => rfl⟩
  | case3 a b c d s ih =>
    intro rest ps h
    simp only [bind, Option.bind_eq_some_iff] at h
    obtain ⟨n, hn, ⟨qs, r⟩, hqs, h⟩ := h
    obtain ⟨rfl, rfl⟩ := Prod.mk.inj (Option.some.inj h)
    obtain ⟨hlt, happ⟩ := ih hqs
    refine ⟨by simp only [List.length_cons]; omega, fun ext hext => ?_⟩
    simp only [List.cons_append, pieces, hn, happ ext hext, bind, Option.bind_some]
  | case4 e s hunit ih =>
    intro rest ps h
    simp only [bind, Option.bind_eq_some_iff] at h
    obtain ⟨c, hc, ⟨qs, r⟩, hqs, h⟩ := h
    obtain ⟨rfl, rfl⟩ := Prod.mk.inj (Option.some.inj h)
    obtain ⟨hlt, happ⟩ := ih hqs
    -- the letter of a unit is no short escape, so that more text cannot make a unit of this
    have hu : e ≠ 'u' := by rintro rfl; cases hc
    refine ⟨by simp only [List.length_cons]; omega, fun ext hext => ?_⟩
    rw [List.cons_append, List.cons_append, pieces]
    · simp only [hc, happ ext hext, bind, Option.bind_some]
    · exact fun _ _ _ _ _ he => absurd he hu
  | case5 c s hquote hunit hescape hbad => intro rest ps h; cases h
  | case6 c s hquote hunit hescape hgood ih =>
    intro rest ps h
    simp only [bind, Option.bind_eq_some_iff] at h
    obtain ⟨⟨qs, r⟩, hqs, h⟩ := h
    obtain ⟨rfl, rfl⟩ := Prod.mk.inj (Option.some.inj h)
    obtain ⟨hlt, happ⟩ := ih hqs
    have hslash : c ≠ '\\' := fun hc => hgood (.inr hc)
    refine ⟨by simp only [List.length_cons]; omega, fun ext hext => ?_⟩
    rw [List.cons_append, pieces]
    · rw [if_neg hgood]
      simp only [happ ext hext, bind, Option.bind_some]
    · exact hquote
    · exact fun _ _ _ _ _ hc => absurd hc hslash
    · exact fun _ _ hc => absurd hc hslash

/-! ## Numbers -/

theorem digits1_eq_some_iff {s ds rest : List Char} :
    digits1 s = some (ds, rest) ↔
      ds ≠ [] ∧ s = ds ++ rest ∧ (∀ d ∈ ds, d.isDigit = true) ∧ ∀ c ∈ rest.head?, c.isDigit = false := by
  have hspan : digits1 s = if (s.span Char.isDigit).1 = [] then none else some (s.span Char.isDigit) := by
    unfold digits1
    generalize s.span Char.isDigit = cut
    obtain ⟨_ | ⟨d, ds⟩, rest⟩ := cut <;> rfl
  rw [hspan]
  exact Text.nonempty_span_eq_some_iff

theorem takesFront_digits1 : TakesFront digits1 := by
  intro s rest ds h
  obtain ⟨hne, rfl, hds, hrest⟩ := digits1_eq_some_iff.1 h
  refine ⟨?_, fun ext hext => digits1_eq_some_iff.2 ⟨hne, List.append_assoc _ _ _, hds, fun c hc => ?_⟩⟩
  · have := List.length_pos_iff.2 hne
    rw [List.length_append]
    omega
  · cases rest with
    | nil => exact (hext c hc).1
    | cons d rest => exact hrest c hc

theorem exists_digit_of_digits1 {s ds rest : List Char} (h : digits1 s = some (ds, rest)) :
    ∃ d s', s = d :: s' ∧ d.isDigit = true := by
  obtain ⟨hne, rfl, hds, -⟩ := digits1_eq_some_iff.1 h
  obtain ⟨d, ds, rfl⟩ := List.exists_cons_of_ne_nil hne
  exact ⟨d, ds ++ rest, rfl, hds d List.mem_cons_self⟩

theorem takesFront_map_digits1 {α : Type} (g : List Char → α) :
    TakesFront fun s => (digits1 s).map fun (ds, rest) => (g ds, rest) := by
  intro s rest a h
  obtain ⟨⟨ds, r⟩, hds, h⟩ := Option.map_eq_some_iff.1 h
  obtain ⟨rfl, rfl⟩ := Prod.mk.inj h
  obtain ⟨hlt, happ⟩ := takesFront_digits1 hds
  refine ⟨hlt, fun ext hext => ?_⟩
  simp only [happ ext hext, Option.map_some]

theorem takesFront_exponent? : TakesFront exponent? := by
  intro s rest e h
  unfold exponent? at h
  split at h
  · rename_i s
    obtain ⟨hlt, happ⟩ := takesFront_map_digits1 (fun ds => -(Text.decimalValue ds : Int)) h
    exact ⟨Nat.lt_succ_of_lt hlt, happ⟩
  · rename_i s
    obtain ⟨hlt, happ⟩ := takesFront_map_digits1 (fun ds => (Text.decimalValue ds : Int)) h
    exact ⟨Nat.lt_succ_of_lt hlt, happ⟩
  · rename_i hminus hplus
    obtain ⟨hlt, happ⟩ := takesFront_map_digits1 (fun ds => (Text.decimalValue ds : Int)) h
    refine ⟨hlt, fun ext hext => ?_⟩
    cases s with
    | nil => cases h
    | cons c s =>
      rw [exponent?]
      · exact happ ext hext
      · exact fun s' hs => hminus s (by rw [(List.cons.inj hs).1])
      · exact fun s' hs => hplus s (by rw [(List.cons.inj hs).1])

/-- What can be left out of a number takes nothing then. -/
def MayTakeFront {α : Type} (f : List Char → Option (α × List Char)) : Prop :=
  ∀ ⦃s rest : List Char⦄ ⦃a : α⦄, f s = some (a, rest) →
    rest.length ≤ s.length ∧ ∀ ext, EndsNumber ext → f (s ++ ext) = some (a, rest ++ ext)

theorem mayTakeFront_optionalExponent : MayTakeFront optionalExponent := by
  intro s rest e h
  unfold optionalExponent at h
  split at h
  · rename_i c s
    split at h
    · rename_i hc
      obtain ⟨⟨e, r⟩, he, h⟩ := Option.map_eq_some_iff.1 h
      obtain ⟨rfl, rfl⟩ := Prod.mk.inj h
      obtain ⟨hlt, happ⟩ := takesFront_exponent? he
      refine ⟨Nat.le_of_lt (Nat.lt_succ_of_lt hlt), fun ext hext => ?_⟩
      rw [List.cons_append, optionalExponent, if_pos hc, happ ext hext, Option.map_some]
    · rename_i hc
      obtain ⟨rfl, rfl⟩ := Prod.mk.inj (Option.some.inj h)
      exact ⟨Nat.le_refl _, fun ext _ => by rw [List.cons_append, optionalExponent, if_neg hc]⟩
  · obtain ⟨rfl, rfl⟩ := Prod.mk.inj (Option.some.inj h)
    refine ⟨Nat.le_refl _, fun ext hext => ?_⟩
    cases ext with
    | nil => rfl
    | cons c ext =>
      obtain ⟨-, -, he, hE⟩ := hext c rfl
      rw [List.nil_append, optionalExponent, if_neg (by simp [he, hE])]

theorem mayTakeFront_optionalFraction : MayTakeFront optionalFraction := by
  intro s rest ds h
  unfold optionalFraction at h
  split at h
  · rename_i s
    obtain ⟨hlt, happ⟩ := takesFront_digits1 h
    exact ⟨Nat.le_of_lt (Nat.lt_succ_of_lt hlt), happ⟩
  · rename_i hpoint
    -- nothing is taken here, so the point that must not come could only be in front of `ext`
    obtain ⟨rfl, rfl⟩ := Prod.mk.inj (Option.some.inj h)
    refine ⟨Nat.le_refl _, fun ext hext => ?_⟩
    rw [optionalFraction]
    intro s' hs'
    cases s with
    | nil =>
      cases ext with
      | nil => cases hs'
      | cons c ext => exact (hext c rfl).2.1 (List.cons.inj hs').1
    | cons c s => exact hpoint s (by rw [(List.cons.inj hs').1])

theorem takesFront_unsigned? (negative : Bool) : TakesFront (unsigned? negative) := by
  intro s rest n h
  simp only [unsigned?, bind, Option.bind_eq_some_iff] at h
  obtain ⟨⟨whole, s1⟩, hwhole, h⟩ := h
  obtain ⟨hzero, h⟩ := Option.ite_none_left_eq_some.1 h
  simp only [Option.bind_eq_some_iff] at h
  obtain ⟨⟨fraction, s2⟩, hfraction, ⟨exponent, s3⟩, hexponent, h⟩ := h
  obtain ⟨rfl, rfl⟩ := Prod.mk.inj (Option.some.inj h)
  obtain ⟨hlt, happ1⟩ := takesFront_digits1 hwhole
  obtain ⟨hle2, happ2⟩ := mayTakeFront_optionalFraction hfraction
  obtain ⟨hle3, happ3⟩ := mayTakeFront_optionalExponent hexponent
  refine ⟨Nat.lt_of_le_of_lt (Nat.le_trans hle3 hle2) hlt, fun ext hext => ?_⟩
  simp only [unsigned?, happ1 ext hext, happ2 ext hext, happ3 ext hext, bind, Option.bind_some]
  rw [if_neg hzero]

theorem takesFront_numeral? : TakesFront numeral? := by
  intro s rest n h
  unfold numeral? at h
  split at h
  · rename_i s
    obtain ⟨hlt, happ⟩ := takesFront_unsigned? _ h
    exact ⟨Nat.lt_succ_of_lt hlt, happ⟩
  · rename_i hminus
    obtain ⟨hlt, happ⟩ := takesFront_unsigned? _ h
    refine ⟨hlt, fun ext hext => ?_⟩
    rw [numeral?, happ ext hext]
    intro s' hs'
    cases s with
    | nil => cases h
    | cons c s => exact hminus s (by rw [(List.cons.inj hs').1])

theorem exists_head_of_numeral? {s rest : List Char} {n : Numeral} (h : numeral? s = some (n, rest)) :
    ∃ c s', s = c :: s' ∧ (c = '-' ∨ c.isDigit = true) := by
  unfold numeral? at h
  split at h
  · exact ⟨'-', _, rfl, .inl rfl⟩
  · obtain ⟨⟨whole, r⟩, hwhole, -⟩ := Option.bind_eq_some_iff.1 h
    obtain ⟨d, s', rfl, hd⟩ := exists_digit_of_digits1 hwhole
    exact ⟨d, s', rfl, .inr hd⟩

/-! ## Tokens -/

theorem next?_numeral {c : Char} {s : List Char} (hc : c = '-' ∨ c.isDigit = true) :
    Token.next? (c :: s) =
      (numeral? (c :: s)).bind fun (n, rest) => n.toToken?.bind fun t => some (t, rest) := by
  have hne : ∀ d : Char, d ≠ '-' → d.isDigit = false → c ≠ d := by
    rintro d hminus hdigit rfl
    rcases hc with rfl | hc
    · exact hminus rfl
    · exact absurd hc (by simp [hdigit])
  rw [Token.next?]
  · rfl
  all_goals
    intro rest h
    refine hne _ ?_ ?_ (List.cons.inj h).1 <;> decide

theorem next?_of_numeral? {c : Char} {s rest : List Char} {n : Numeral} {t : Token} (hc : c = '-' ∨ c.isDigit = true)
    (hn : numeral? (c :: s) = some (n, rest)) (ht : n.toToken? = some t) : Token.next? (c :: s) = some (t, rest) := by
  rw [next?_numeral hc, hn, Option.bind_some]
  simp only [ht, Option.bind_some]

theorem takesFront_next? : TakesFront Token.next? := by
  intro s rest t h
  unfold Token.next? at h
  split at h
  case h_10 s =>
    simp only [bind, Option.bind_eq_some_iff] at h
    obtain ⟨⟨ps, r⟩, hps, cs, hcs, h⟩ := h
    obtain ⟨rfl, rfl⟩ := Prod.mk.inj (Option.some.inj h)
    obtain ⟨hlt, happ⟩ := takesFront_pieces hps
    refine ⟨Nat.lt_succ_of_lt hlt, fun ext hext => ?_⟩
    simp only [List.cons_append, Token.next?, happ ext hext, hcs, bind, Option.bind_some]
  case h_11 =>
    simp only [bind, Option.bind_eq_some_iff] at h
    obtain ⟨⟨n, r⟩, hn, t, ht, h⟩ := h
    obtain ⟨rfl, rfl⟩ := Prod.mk.inj (Option.some.inj h)
    obtain ⟨hlt, happ⟩ := takesFront_numeral? hn
    obtain ⟨c, s', rfl, hc⟩ := exists_head_of_numeral? hn
    refine ⟨hlt, fun ext hext => ?_⟩
    exact next?_of_numeral? hc (happ ext hext) ht
  all_goals
    obtain ⟨rfl, rfl⟩ := Prod.mk.inj (Option.some.inj h)
    exact ⟨by simp only [List.length_cons]; omega, fun ext _ => rfl⟩

/-! ## Texts -/

/-- The tokens of a text, whatever the fuel. -/
inductive Lexes : List Char → List Token → Prop
  | nil {s : List Char} (h : skipSpaces s = []) : Lexes s []
  | cons {s rest : List Char} {t : Token} {ts : List Token} (h : Token.next? (skipSpaces s) = some (t, rest))
      (hts : Lexes rest ts) : Lexes s (t :: ts)

theorem length_skipSpaces_le (s : List Char) : (skipSpaces s).length ≤ s.length :=
  (List.dropWhile_suffix _).length_le

theorem skipSpaces_append_of_nil {s : List Char} (h : skipSpaces s = []) (u : List Char) :
    skipSpaces (s ++ u) = skipSpaces u := by
  unfold skipSpaces at *
  rw [List.dropWhile_append, h]
  rfl

theorem skipSpaces_append_of_ne_nil {s : List Char} (h : skipSpaces s ≠ []) (u : List Char) :
    skipSpaces (s ++ u) = skipSpaces s ++ u := by
  unfold skipSpaces at *
  rw [List.dropWhile_append, if_neg fun hempty => h (List.isEmpty_iff.1 hempty)]

theorem skipSpaces_ne_nil {s rest : List Char} {t : Token} (h : Token.next? (skipSpaces s) = some (t, rest)) :
    skipSpaces s ≠ [] := by
  intro hnil
  rw [hnil] at h
  cases h

theorem lexFrom_succ {fuel : Nat} {s rest : List Char} {t : Token} (h : Token.next? (skipSpaces s) = some (t, rest)) :
    lexFrom (fuel + 1) s = (lexFrom fuel rest).map (t :: ·) := by
  rw [lexFrom]
  split
  · rename_i hnil
    exact absurd hnil (skipSpaces_ne_nil h)
  · rw [h, Option.map_eq_bind]
    rfl

theorem Lexes.of_lexFrom : ∀ {fuel : Nat} {s : List Char} {ts : List Token}, lexFrom fuel s = some ts → Lexes s ts
  | 0, s, ts, h => by
    obtain ⟨hnil, h⟩ := Option.ite_none_right_eq_some.1 h
    exact Option.some.inj h ▸ .nil hnil
  | fuel + 1, s, ts, h => by
    cases hnext : Token.next? (skipSpaces s) with
    | some p =>
      obtain ⟨t, rest⟩ := p
      rw [lexFrom_succ hnext] at h
      obtain ⟨us, hus, rfl⟩ := Option.map_eq_some_iff.1 h
      exact .cons hnext (of_lexFrom hus)
    | none =>
      rw [lexFrom] at h
      split at h
      · rename_i hnil
        exact Option.some.inj h ▸ .nil hnil
      · rw [hnext] at h
        cases h

/-- Each token takes a character, so that the length of the text is enough fuel. -/
theorem Lexes.lexFrom {s : List Char} {ts : List Token} (h : Lexes s ts) :
    ∀ {fuel : Nat}, s.length ≤ fuel → Json.lexFrom fuel s = some ts := by
  induction h with
  | nil hnil =>
    intro fuel _
    cases fuel with
    | zero => exact if_pos hnil
    | succ fuel => rw [Json.lexFrom, hnil]
  | @cons s rest t ts hnext hts ih =>
    intro fuel hfuel
    have hlt := (takesFront_next? hnext).1
    have hle := length_skipSpaces_le s
    cases fuel with
    | zero => omega
    | succ fuel => rw [lexFrom_succ hnext, ih (by omega)]; rfl

theorem lex_eq_some_iff {s : List Char} {ts : List Token} : lex s = some ts ↔ Lexes s ts :=
  ⟨Lexes.of_lexFrom, fun h => h.lexFrom (Nat.le_refl _)⟩

/-- **The tokens of two texts in a row**, if the second does not go on a number that ends the first. -/
theorem Lexes.append {s u : List Char} {ts us : List Token} (hs : Lexes s ts) (hu : Lexes u us) (hend : EndsNumber u) :
    Lexes (s ++ u) (ts ++ us) := by
  induction hs with
  | @nil s hnil =>
    cases hu with
    | nil h => exact .nil ((skipSpaces_append_of_nil hnil u).trans h)
    | cons h hts => exact .cons (skipSpaces_append_of_nil hnil u ▸ h) hts
  | @cons s rest t ts hnext hts ih =>
    -- the token leaves `rest ++ u` behind it, whose tokens the induction gives
    refine .cons ?_ ih
    rw [skipSpaces_append_of_ne_nil (skipSpaces_ne_nil hnext)]
    exact (takesFront_next? hnext).2 u hend

end LintGloss.Json
