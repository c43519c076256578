import LintGloss.Proofs.Json.Lexer
import LintGloss.Proofs.Json.Reader
/-!
# Texts put together

A text in brackets, put together from texts of values with commas between them, writes the array of these values, inside
of open arrays and objects too (`writesIn_arrText`).
-/

namespace LintGloss.Json

/-- Texts in brackets, with commas between them. -/
def arrText : List (List Char) → List Char
  | [] => ['[', ']']
  | s :: ss => '[' :: (s ++ ss.flatMap (',' :: ·) ++ [']'])

theorem head?_arrText (ss : List (List Char)) : (arrText ss).head? = some '[' := by cases ss <;> rfl

theorem getLast?_arrText (ss : List (List Char)) : (arrText ss).getLast? = some ']' := by
  cases ss with
  | nil => rfl
  | cons s ss => rw [arrText, ← List.cons_append, List.getLast?_concat]

/-- A text that writes a value where some arrays and objects are open. -/
def WritesIn (stack : List Frame) (s : List Char) (j : Json) : Prop :=
  ∃ ts, Lexes s ts ∧ Reader.run (.value stack) ts = some (Reader.give j stack)

theorem WritesIn.parse? {s : List Char} {j : Json} (h : WritesIn [] s j) : Json.parse? s = some j := by
  obtain ⟨ts, hts, hrun⟩ := h
  rw [Json.parse?, lex_eq_some_iff.2 hts]
  show ofTokens? ts = some j
  rw [ofTokens?, hrun]
  rfl

variable (stack : List Frame)

theorem writesIn_of_parse? {s : List Char} {j : Json} (h : Json.parse? s = some j)
    (hd : stack.length + j.depth ≤ Reader.depthLimit) : WritesIn stack s j := by
  obtain ⟨ts, hts, hj⟩ := Option.bind_eq_some_iff.1 h
  exact ⟨ts, lex_eq_some_iff.1 hts, Reader.run_value hj hd⟩

theorem endsNumber_items (ss : List (List Char)) : EndsNumber (ss.flatMap (',' :: ·) ++ [']']) := by
  cases ss with
  | nil => exact endsNumber_cons (by decide) _
  | cons s ss => exact endsNumber_cons (by decide) _

theorem exists_tokens_items : ∀ {ss : List (List Char)} {js : List Json} (done : List Json),
    ss.map Json.parse? = js.map some → (∀ j ∈ js, stack.length + 1 + j.depth ≤ Reader.depthLimit) →
    ∃ ts, Lexes (ss.flatMap (',' :: ·) ++ [']']) ts ∧
      Reader.run (.afterItem done stack) ts = some (Reader.give (.arr (done.reverse ++ js)) stack)
  | [], js, done, h, _ => by
    rw [List.map_eq_nil_iff.1 h.symm, List.append_nil]
    exact ⟨[.arrClose], .cons rfl (.nil rfl), rfl⟩
  | s :: ss, [], done, h, _ => by cases h
  | s :: ss, j :: js, done, h, hd => by
    obtain ⟨hs, hss⟩ := List.cons.inj h
    obtain ⟨hj, hjs⟩ := List.forall_mem_cons.1 hd
    obtain ⟨ts, hts, hrun⟩ := writesIn_of_parse? (.arr done :: stack) hs hj
    obtain ⟨us, hus, hrest⟩ := exists_tokens_items (j :: done) hss hjs
    -- a comma, the item on top of those that are done, and then the others
    refine ⟨.comma :: (ts ++ us), ?_, ?_⟩
    · rw [List.flatMap_cons, List.append_assoc]
      exact .cons rfl (hts.append hus (endsNumber_items ss))
    · rw [Reader.run_cons, Reader.step, Option.bind_some, Reader.run_append, hrun, Option.bind_some, Reader.give, hrest,
        List.reverse_cons, List.append_assoc]
      rfl

/-- **An array is written by the texts of its items**, if there is room for it. -/
theorem writesIn_arrText {ss : List (List Char)} {js : List Json} (h : ss.map Json.parse? = js.map some)
    (hstack : stack.length < Reader.depthLimit) (hd : ∀ j ∈ js, stack.length + 1 + j.depth ≤ Reader.depthLimit) :
    WritesIn stack (arrText ss) (.arr js) := by
  have hopen : Reader.step (.value stack) .arrOpen = some (.firstItem stack) := if_pos hstack
  cases ss with
  | nil =>
    rw [List.map_eq_nil_iff.1 h.symm]
    refine ⟨[.arrOpen, .arrClose], .cons rfl (.cons rfl (.nil rfl)), ?_⟩
    rw [Reader.run_cons, hopen]
    rfl
  | cons s ss =>
    cases js with
    | nil => cases h
    | cons j js =>
      obtain ⟨hs, hss⟩ := List.cons.inj h
      obtain ⟨hj, hjs⟩ := List.forall_mem_cons.1 hd
      obtain ⟨ts, hts, hrun⟩ := writesIn_of_parse? (.arr [] :: stack) hs hj
      obtain ⟨us, hus, hrest⟩ := exists_tokens_items stack [j] hss hjs
      have hfirst : Reader.run (.firstItem stack) ts = some (.afterItem [j] stack) := Reader.run_firstItem hrun
      refine ⟨.arrOpen :: (ts ++ us), ?_, ?_⟩
      · rw [arrText, List.append_assoc]
        exact .cons rfl (hts.append hus (endsNumber_items ss))
      · rw [Reader.run_cons, hopen, Option.bind_some, Reader.run_append, hfirst, Option.bind_some, hrest]
        rfl

theorem writesIn_objText {k : String} {s : List Char} {j : Json} (hk : Lexes (quote k) [.str k])
    (hstack : stack.length < Reader.depthLimit) (h : WritesIn (.obj [] k :: stack) s j) :
    WritesIn stack ('\x7b' :: (quote k ++ ':' :: (s ++ ['\x7d']))) (.obj [(k, j)]) := by
  have hopen : Reader.step (.value stack) .objOpen = some (.firstKey stack) := if_pos hstack
  obtain ⟨ts, hts, hrun⟩ := h
  refine ⟨.objOpen :: .str k :: .colon :: (ts ++ [.objClose]), .cons rfl ?_, ?_⟩
  · have hend : Lexes ['\x7d'] [.objClose] := .cons rfl (.nil rfl)
    have hvalue : Lexes (':' :: (s ++ ['\x7d'])) (.colon :: (ts ++ [.objClose])) :=
      .cons rfl (hts.append hend (endsNumber_cons (by decide) _))
    exact hk.append hvalue (endsNumber_cons (by decide) _)
  · rw [Reader.run_cons, hopen, Option.bind_some, Reader.run_cons, Reader.step, Option.bind_some, Reader.run_cons,
      Reader.step, Option.bind_some, Reader.run_append, hrun]
    rfl

end LintGloss.Json
