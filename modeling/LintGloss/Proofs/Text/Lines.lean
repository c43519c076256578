import LintGloss.Text.Lines
/-!
# Texts made of lines

Lines are put together with a line feed behind each, or with a carriage return and a line feed, as it comes; behind the
last of them there may be nothing.  Whichever it is, the text is taken apart into the same lines
(`flatMap_lines_of_isMadeOf`).
-/

namespace LintGloss.Text

/-- What stands behind a line. -/
inductive Ending
  | lineFeed
  | carriageReturn
  deriving DecidableEq

def Ending.text : Ending → List Char
  | lineFeed => ['\n']
  | carriageReturn => ['\r', '\n']

/-- Nothing ends the line before its ending, or could be taken for a part of that ending. -/
structure IsLine (l : List Char) : Prop where
  feed : '\n' ∉ l
  last : l.getLast? ≠ some '\r'

/-- The texts that can be made of lines. -/
inductive IsMadeOf : List (List Char) → List Char → Prop
  | empty : IsMadeOf [] []
  | unended (l : List Char) : IsMadeOf [l] l
  | ended (l : List Char) (e : Ending) {ls : List (List Char)} {s : List Char} :
    IsMadeOf ls s → IsMadeOf (l :: ls) (l ++ (e.text ++ s))

/-- A text with a carriage return in front of each of its line feeds. -/
def withReturns (s : List Char) : List Char := s.flatMap fun c => if c = '\n' then Ending.carriageReturn.text else [c]

variable {l s : List Char} {ls : List (List Char)} {c : Char}

theorem IsLine.tail (h : IsLine (c :: l)) : IsLine l where
  feed hmem := h.feed (List.mem_cons_of_mem c hmem)
  last hlast := h.last (by rw [List.getLast?_cons, hlast]; rfl)

/-- A character that neither ends a line nor begins an ending belongs to the first line. -/
theorem lines_cons (hfeed : c ≠ '\n') (hreturn : c = '\r' → s.head? ≠ some '\n') :
    lines (c :: s) = (c :: (lines s).headD []) :: (lines s).tail := by
  rw [lines]
  · cases lines s <;> rfl
  · exact hfeed
  · rintro rest rfl rfl
    exact hreturn rfl rfl

theorem lines_append_ending (h : IsLine l) (e : Ending) (s : List Char) : lines (l ++ (e.text ++ s)) = l :: lines s := by
  induction l with
  | nil => cases e <;> rfl
  | cons c l ih =>
    rw [List.cons_append, lines_cons, ih h.tail]
    · rfl
    · exact fun hc => h.feed (hc ▸ List.mem_cons_self)
    · -- a carriage return in a line has something of the line behind it
      rintro rfl
      cases l with
      | nil => exact absurd rfl h.last
      | cons d l =>
        intro hd
        exact h.tail.feed (Option.some.inj hd ▸ List.mem_cons_self)

theorem lines_of_isLine (h : IsLine l) : lines l = if l = [] then [] else [l] := by
  induction l with
  | nil => rfl
  | cons c l ih =>
    rw [lines_cons, ih h.tail]
    · cases l <;> rfl
    · exact fun hc => h.feed (hc ▸ List.mem_cons_self)
    · rintro - hhead
      exact h.tail.feed (List.mem_of_mem_head? hhead)

/-- **A text is taken apart into the lines that it is made of.**  An empty line without an ending leaves no trace. -/
theorem flatMap_lines_of_isMadeOf {α : Type} {f : List Char → List α} (hf : f [] = []) (h : IsMadeOf ls s)
    (hls : ∀ l ∈ ls, IsLine l) : (lines s).flatMap f = ls.flatMap f := by
  induction h with
  | empty => rfl
  | unended l =>
    rw [lines_of_isLine (hls l List.mem_cons_self)]
    by_cases hl : l = []
    · simp [hl, hf]
    · rw [if_neg hl]
  | ended l e _ ih =>
    obtain ⟨hl, hrest⟩ := List.forall_mem_cons.1 hls
    rw [lines_append_ending hl, List.flatMap_cons, List.flatMap_cons, ih hrest]

theorem lines_withReturns (h : '\r' ∉ s) : lines (withReturns s) = lines s := by
  induction s with
  | nil => rfl
  | cons c s ih =>
    have hs : '\r' ∉ s := fun hmem => h (List.mem_cons_of_mem c hmem)
    have hc : c ≠ '\r' := fun heq => h (heq ▸ List.mem_cons_self)
    by_cases hfeed : c = '\n'
    · subst hfeed
      rw [lines, ← ih hs]
      rfl
    · have hcons : withReturns (c :: s) = c :: withReturns s := by simp [withReturns, hfeed]
      rw [hcons, lines_cons hfeed (absurd · hc), ih hs, lines_cons hfeed (absurd · hc)]

end LintGloss.Text
