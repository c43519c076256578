import LintGloss.Proofs.Json.Layout
/-!
# The compact layout

The compact layout is the texts of the tokens of a value in a row (`renderAt_compact`).  Every layout is the compact one
when the spaces outside of its strings are taken out (`squeeze_renderAt`).  No control character is in it, so that it
stays on its line.
-/

namespace LintGloss.Json

/-! ## Spaces outside of strings -/

mutual

/-- A text without the spaces outside of its strings. -/
def squeeze : List Char → List Char
  | [] => []
  | c :: s => if isSpace c then squeeze s else c :: (if c = '"' then inString s else squeeze s)

/-- The rest of a string stays as it is; a quote behind a backslash does not end it. -/
def inString : List Char → List Char
  | [] => []
  | '\\' :: c :: s => '\\' :: c :: inString s
  | c :: s => c :: (if c = '"' then squeeze s else inString s)

end

theorem squeeze_append : ∀ {u : List Char}, (∀ c ∈ u, isSpace c = false ∧ c ≠ '"') →
    ∀ s, squeeze (u ++ s) = u ++ squeeze s
  | [], _, s => rfl
  | c :: u, h, s => by
    obtain ⟨⟨hspace, hquote⟩, hu⟩ := List.forall_mem_cons.1 h
    have ih := squeeze_append hu s
    simp [squeeze, hspace, hquote, ih]

theorem inString_cons {c : Char} (hquote : c ≠ '"') (hslash : c ≠ '\\') (s : List Char) :
    inString (c :: s) = c :: inString s := by
  rw [inString, if_neg hquote]
  exact fun _ _ h => absurd h hslash

theorem lowerHex_ne : ∀ n < 16, lowerHex n ≠ '"' ∧ lowerHex n ≠ '\\' := by decide

theorem inString_escapeChar (c : Char) (s : List Char) : inString (escapeChar c ++ s) = escapeChar c ++ inString s := by
  unfold escapeChar
  split
  case h_8 hquote hslash _ _ _ _ _ =>
    split
    · rename_i hc
      obtain ⟨hquote1, hslash1⟩ := lowerHex_ne (c.toNat / 16) (by omega)
      obtain ⟨hquote2, hslash2⟩ := lowerHex_ne (c.toNat % 16) (by omega)
      have hzero : ∀ s, inString ('0' :: s) = '0' :: inString s := inString_cons (by decide) (by decide)
      simp [inString, hzero, inString_cons hquote1 hslash1, inString_cons hquote2 hslash2]
    · exact inString_cons hquote hslash s
  all_goals rfl

theorem squeeze_quote (k : String) (s : List Char) : squeeze (quote k ++ s) = quote k ++ squeeze s := by
  have hbody : ∀ u : List Char,
      inString (u.flatMap escapeChar ++ '"' :: s) = u.flatMap escapeChar ++ '"' :: squeeze s := by
    intro u
    induction u with
    | nil => simp [inString]
    | cons c u ih => rw [List.flatMap_cons, List.append_assoc, inString_escapeChar, ih, List.append_assoc]
  have hopen : squeeze ('"' :: (k.toList.flatMap escapeChar ++ '"' :: s)) =
      '"' :: inString (k.toList.flatMap escapeChar ++ '"' :: s) := by
    simp [squeeze, isSpace]
  simpa [quote, hbody] using hopen

def InNumber (c : Char) : Prop := c = '-' ∨ c = 'e' ∨ c.isDigit = true

theorem inNumber_of_mem_ofInt {n : Int} {c : Char} (h : c ∈ Decimal.ofInt n) : InNumber c := by
  cases n with
  | ofNat k => exact .inr (.inr (isDigit_of_mem_digits h))
  | negSucc k =>
    rcases List.mem_cons.1 h with rfl | h
    · exact .inl rfl
    · exact .inr (.inr (isDigit_of_mem_digits h))

theorem inNumber_of_mem_text {t : Token} (ht : t.isNumber = true) {c : Char} (h : c ∈ t.text) : InNumber c := by
  cases t with
  | int n => exact inNumber_of_mem_ofInt h
  | real d =>
    obtain ⟨negative, units, exponent⟩ := d
    simp only [Token.text, List.mem_append, List.mem_cons] at h
    rcases h with (h | h) | rfl | h
    · cases negative with
      | false => cases h
      | true => exact .inl (List.mem_singleton.1 h)
    · exact .inr (.inr (isDigit_of_mem_digits h))
    · exact .inr (.inl rfl)
    · exact inNumber_of_mem_ofInt h
  | _ => cases ht

theorem not_space_of_inNumber {c : Char} (h : InNumber c) : isSpace c = false ∧ c ≠ '"' := by
  rcases h with rfl | rfl | h
  · decide
  · decide
  · constructor
    · cases hspace : isSpace c with
      | false => rfl
      | true =>
        simp only [isSpace, Bool.or_eq_true, beq_iff_eq] at hspace
        rcases hspace with ((rfl | rfl) | rfl) | rfl <;> cases h
    · rintro rfl
      cases h

theorem squeeze_text (t : Token) (s : List Char) : squeeze (t.text ++ s) = t.text ++ squeeze s := by
  have hfixed {u : List Char} (hu : u.all (fun c => !isSpace c && c != '"') = true) :
      squeeze (u ++ s) = u ++ squeeze s :=
    squeeze_append (fun c hc => by simpa using List.all_eq_true.1 hu c hc) s
  cases t with
  | str k => exact squeeze_quote k s
  | int | real => exact squeeze_append (fun c hc => not_space_of_inNumber (inNumber_of_mem_text rfl hc)) s
  | bool b => cases b <;> exact hfixed (by decide)
  | _ => exact hfixed (by decide)

theorem Spread.squeeze_eq {s : List Char} {ts : List Token} (h : Spread s ts) : squeeze s = ts.flatMap Token.text := by
  induction h with
  | nil => rfl
  | space hc _ ih => rw [squeeze, if_pos hc, ih]
  | token _ _ ih => rw [squeeze_text, ih, List.flatMap_cons]

theorem renderItems_compact {depth : Nat} : ∀ {items : List Json},
    (∀ j ∈ items, renderAt .compact depth j = j.tokens.flatMap Token.text) →
    renderItems .compact depth items = (tokensOfItems items).flatMap Token.text
  | [], _ => rfl
  | j :: items, h => by
    obtain ⟨hj, hitems⟩ := List.forall_mem_cons.1 h
    simp [renderItems, tokensOfItems, Layout.lineBreak, Token.text, hj, renderItems_compact hitems]

theorem renderMembers_compact {depth : Nat} : ∀ {members : List (String × Json)},
    (∀ m ∈ members, renderAt .compact depth m.2 = m.2.tokens.flatMap Token.text) →
    renderMembers .compact depth members = (tokensOfMembers members).flatMap Token.text
  | [], _ => rfl
  | (k, j) :: members, h => by
    obtain ⟨hj, hmembers⟩ := List.forall_mem_cons.1 h
    simp [renderMembers, tokensOfMembers, Layout.lineBreak, Layout.colon, Token.text, hj,
      renderMembers_compact hmembers]

/-- The compact layout is the texts of the tokens and nothing else. -/
theorem renderAt_compact (j : Json) : ∀ depth, renderAt .compact depth j = j.tokens.flatMap Token.text := by
  induction j using Json.induction with
  | arr items ih =>
    intro depth
    cases items with
    | nil => rfl
    | cons j items =>
      obtain ⟨hj, hitems⟩ := List.forall_mem_cons.1 ih
      have hrest := renderItems_compact fun j hj => hitems j hj (depth + 1)
      simp [renderAt, tokens, Layout.lineBreak, Token.text, hj, hrest]
  | obj members ih =>
    intro depth
    cases members with
    | nil => rfl
    | cons m members =>
      obtain ⟨hj, hmembers⟩ := List.forall_mem_cons.1 ih
      have hrest := renderMembers_compact fun m hm => hmembers m hm (depth + 1)
      simp [renderAt, tokens, Layout.lineBreak, Layout.colon, Token.text, hj, hrest]
  | null | bool | int | real | str => simp [renderAt, tokens]

/-- **Without the spaces outside of strings any layout is the compact one.** -/
theorem squeeze_renderAt (l : Layout) (depth : Nat) (j : Json) :
    squeeze (renderAt l depth j) = renderAt .compact depth j := by
  rw [(spread_renderAt l j depth).squeeze_eq, renderAt_compact]

/-! ## One line -/

/-- The least character that is no control character. -/
def leastPrintable : Nat := 0x20

theorem le_of_mem_of_all {s : List Char} (hs : s.all (leastPrintable ≤ ·.toNat) = true) {c : Char} (h : c ∈ s) :
    leastPrintable ≤ c.toNat := of_decide_eq_true (List.all_eq_true.1 hs c h)

theorem le_of_mem_escapeChar {c d : Char} (h : d ∈ escapeChar c) : leastPrintable ≤ d.toNat := by
  have hhex : ∀ n < 16, leastPrintable ≤ (lowerHex n).toNat := by decide
  unfold escapeChar at h
  split at h
  case h_8 =>
    split at h
    · simp only [List.mem_cons, List.not_mem_nil, or_false] at h
      rcases h with rfl | rfl | rfl | rfl | rfl | rfl
      any_goals decide
      · exact hhex _ (by omega)
      · exact hhex _ (by omega)
    · rename_i hc
      rw [List.mem_singleton.1 h]
      exact Nat.le_of_not_lt hc
  all_goals exact le_of_mem_of_all (by decide) h

theorem le_of_inNumber {c : Char} (h : InNumber c) : leastPrintable ≤ c.toNat := by
  rcases h with rfl | rfl | h
  · decide
  · decide
  · have hzero : 0x30 ≤ c.toNat := by
      simp only [Char.isDigit, Bool.and_eq_true, decide_eq_true_eq] at h
      simpa using UInt32.le_iff_toNat_le.1 h.1
    exact Nat.le_trans (by decide) hzero

theorem le_of_mem_text {t : Token} {c : Char} (h : c ∈ t.text) : leastPrintable ≤ c.toNat := by
  cases t with
  | str k =>
    simp only [Token.text, quote, List.mem_append, List.mem_cons, List.mem_flatMap, List.not_mem_nil, or_false] at h
    rcases h with (rfl | ⟨d, -, h⟩) | rfl
    · decide
    · exact le_of_mem_escapeChar h
    · decide
  | int | real => exact le_of_inNumber (inNumber_of_mem_text rfl h)
  | bool b => cases b <;> exact le_of_mem_of_all (by decide) h
  | _ => exact le_of_mem_of_all (by decide) h

/-- **The compact layout holds no control characters.** -/
theorem le_of_mem_renderAt_compact {depth : Nat} {j : Json} {c : Char} (h : c ∈ renderAt .compact depth j) :
    leastPrintable ≤ c.toNat := by
  rw [renderAt_compact] at h
  obtain ⟨t, -, ht⟩ := List.mem_flatMap.1 h
  exact le_of_mem_text ht

end LintGloss.Json
