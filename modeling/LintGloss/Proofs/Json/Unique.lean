import LintGloss.Proofs.Json.RoundTrip
/-!
# One text, one value

No text is that of two values (`eq_of_render_eq`).  That a written value is read back does not say so much: a number of
more than 64 bits is read as a real.  `Token.unbounded?` reads a number with all of its digits, and so it finds each
token of a text again.
-/

namespace LintGloss.Json

/-! ## Numbers of any size -/

theorem numeral?_eq_none {c : Char} (hminus : c ≠ '-') (hdigit : c.isDigit = false) (s : List Char) :
    numeral? (c :: s) = none := by
  rw [← Option.not_isSome_iff_eq_none, Option.isSome_iff_exists]
  rintro ⟨⟨n, rest⟩, h⟩
  obtain ⟨d, s', hs, hd⟩ := exists_head_of_numeral? h
  obtain ⟨rfl, -⟩ := List.cons.inj hs
  rcases hd with hd | hd
  · exact hminus hd
  · exact absurd hd (by simp [hdigit])

/-! ## Tokens -/

/-- The token of a number that has no point, whatever its size. -/
def Numeral.unbounded (n : Numeral) : Token :=
  let value := Text.decimalValue n.whole
  match n.exponent with
  | none => .int (if n.negative then -value else value)
  | some e => .real ⟨n.negative, value, e⟩

namespace Token

/-- The token at the front of a text, with all digits of a number. -/
def unbounded? (s : List Char) : Option (Token × List Char) :=
  match numeral? s with
  | some (n, rest) => some (n.unbounded, rest)
  | none => next? s

/-- **Every written token is found again.** -/
theorem unbounded?_text (t : Token) {ext : List Char} (hext : t.isNumber = true → EndsNumber ext) :
    unbounded? (t.text ++ ext) = some (t, ext) := by
  have hother {c : Char} {s : List Char} (hminus : c ≠ '-') (hdigit : c.isDigit = false) :
      unbounded? (c :: s) = next? (c :: s) := by
    rw [unbounded?, numeral?_eq_none hminus hdigit s]
  cases t with
  | int n =>
    have hvalue : (if decide (n < 0) then -(n.natAbs : Int) else n.natAbs) = n := by
      by_cases hn : n < 0
      · rw [if_pos (decide_eq_true hn)]
        omega
      · rw [if_neg (by simpa using hn)]
        omega
    rw [text, unbounded?, (spells_ofInt n).numeral? (hext rfl)]
    simp only [Numeral.unbounded, decimalValue_digits, hvalue]
  | real d =>
    rw [unbounded?, (spells_real d).numeral? (hext rfl)]
    simp only [Numeral.unbounded, decimalValue_digits]
  | str s =>
    have hquote : unbounded? (quote s ++ ext) = next? (quote s ++ ext) := hother (by decide) (by decide)
    rw [text, hquote]
    exact next?_of_spelledBy (spelledBy_text (t := .str s) trivial) hext
  | bool b => cases b <;> exact hother (by decide) (by decide)
  | _ => exact hother (by decide) (by decide)

theorem unbounded?_space {c : Char} (hc : isSpace c = true) (s : List Char) : unbounded? (c :: s) = none := by
  have hnumber : numeral? (c :: s) = none := by
    simp only [isSpace, Bool.or_eq_true, beq_iff_eq] at hc
    rcases hc with ((rfl | rfl) | rfl) | rfl <;> exact numeral?_eq_none (by decide) (by decide) s
  rw [unbounded?, hnumber]
  exact next?_space hc s

end Token

/-! ## Texts -/

/-- The tokens between which a text has spaces are determined by it. -/
theorem Spread.tokens_eq {s : List Char} {ts : List Token} (h : Spread s ts) :
    ∀ {s' : List Char} {ts' : List Token}, Spread s' ts' → s = s' → ts = ts' := by
  -- the first character tells whether a space or a token comes next, and the token is read off the text
  induction h with
  | nil =>
    intro s' ts' h' hs
    cases h' with
    | nil => rfl
    | space => cases hs
    | token hend _ =>
      have hread := Token.unbounded?_text _ hend
      rw [← hs] at hread
      cases hread
  | @space c s ts hc h ih =>
    intro s' ts' h' hs
    cases h' with
    | nil => cases hs
    | space _ h' => exact ih h' (List.cons.inj hs).2
    | token hend _ =>
      have hread := Token.unbounded?_text _ hend
      rw [← hs, Token.unbounded?_space hc] at hread
      cases hread
  | @token t s ts hend h ih =>
    intro s' ts' h' hs
    have hread := Token.unbounded?_text t hend
    rw [hs] at hread
    cases h' with
    | nil => cases hread
    | space hc _ =>
      rw [Token.unbounded?_space hc] at hread
      cases hread
    | token hend' h' =>
      rw [Token.unbounded?_text _ hend'] at hread
      obtain ⟨rfl, rfl⟩ := Prod.mk.inj (Option.some.inj hread)
      rw [ih h' rfl]

theorem eq_of_tokens_eq {j j' : Json} (hd : j.depth ≤ Reader.depthLimit) (hd' : j'.depth ≤ Reader.depthLimit)
    (h : j.tokens = j'.tokens) : j = j' := by
  have hrun := Reader.run_tokens j [] (Nat.le_trans (Nat.le_of_eq (Nat.zero_add _)) hd)
  have hrun' := Reader.run_tokens j' [] (Nat.le_trans (Nat.le_of_eq (Nat.zero_add _)) hd')
  rw [h, hrun'] at hrun
  exact (Reader.finished.inj (Option.some.inj hrun)).symm

/-- **No text is that of two values**, in one layout or in both. -/
theorem eq_of_render_eq {l l' : Layout} {j j' : Json} (hd : j.depth ≤ Reader.depthLimit)
    (hd' : j'.depth ≤ Reader.depthLimit) (h : j.render l = j'.render l') : j = j' := by
  have htext : renderAt l 0 j = renderAt l' 0 j' := by
    rw [render, render] at h
    exact String.ofList_injective h
  exact eq_of_tokens_eq hd hd' ((spread_renderAt l j 0).tokens_eq (spread_renderAt l' j' 0) htext)

end LintGloss.Json
