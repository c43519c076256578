import LintGloss.Proofs.Diagnostic
import LintGloss.Proofs.Diagnostic.Line
import LintGloss.Proofs.Text.Lines
import Mathlib.Data.List.Basic
/-!
# Output of the TypeScript compiler, line by line

The output has the violations of its lines, each read on its own, however the lines are ended (`reads_linewise`).  So a
line that has none, a banner for instance, can stand anywhere and makes no difference to the others.
-/

namespace LintGloss.Diagnostic.Tsc

open Text (isBlank IsLine IsMadeOf withReturns)
open Violation (greatestCoordinate)

/-- Lines without a violation. -/
inductive IsSilent : List Char → Prop
  | blank {s : List Char} : (∀ c ∈ s, isBlank c = true) → IsSilent s
  /-- A banner, or what a diagnostic goes on with. -/
  | placeless {s : List Char} : '(' ∉ s → IsSilent s
  /-- The line or the column is a number, but too great a one. -/
  | tooGreat {l : Line} : l.HasPlace →
    greatestCoordinate < Text.decimalValue l.line ∨ greatestCoordinate < Text.decimalValue l.column → IsSilent l.text
  /-- The line has another form, as that of a warning. -/
  | misshapen {s : List Char} : (∀ l : Line, l.WellFormed → l.text ≠ s) → IsSilent s

variable {l : Line} {s : List Char} {ls : List (List Char)}

theorem Line.open_mem_text (l : Line) : '(' ∈ l.text := by
  rw [Line.text_eq]
  exact List.mem_append_right _ List.mem_cons_self

theorem IsSilent.text_ne (h : IsSilent s) (hl : l.WellFormed) : l.text ≠ s := by
  intro htext
  cases h with
  | blank h =>
    have hopen : isBlank '(' = true := h '(' (htext ▸ l.open_mem_text)
    exact absurd hopen (by decide)
  | placeless h => exact h (htext ▸ l.open_mem_text)
  | tooGreat hplace hgreat =>
    obtain ⟨-, hline, hcolumn, -⟩ := hl.hasPlace.eq_of_text_eq hplace htext
    rw [← hline, ← hcolumn] at hgreat
    exact hgreat.elim (Nat.not_lt.2 hl.line.le) (Nat.not_lt.2 hl.column.le)
  | misshapen h => exact h l hl htext

theorem violation?_eq_none_of_isSilent (h : IsSilent s) : violation? s = none := by
  cases hv : violation? s with
  | none => rfl
  | some v =>
    obtain ⟨l, hl, htext, -⟩ := exists_line hv
    exact absurd htext (h.text_ne hl)

/-! ## Outputs -/

theorem read_ofList (s : List Char) :
    read (String.ofList s) = (Text.lines s).flatMap fun l => (violation? l).toList := by
  rw [read, String.toList_ofList]
  exact Tool.filterMap_eq_flatMap _ _

theorem read_of_isMadeOf (h : IsMadeOf ls s) (hls : ∀ l ∈ ls, IsLine l) :
    read (String.ofList s) = ls.flatMap fun l => (violation? l).toList := by
  rw [read_ofList]
  exact Text.flatMap_lines_of_isMadeOf rfl h hls

theorem read_of_isLine {l : List Char} (h : IsLine l) : read (String.ofList l) = (violation? l).toList := by
  rw [read_of_isMadeOf (.unended l) (List.forall_mem_singleton.2 h), List.flatMap_cons, List.flatMap_nil, List.append_nil]

theorem read_withReturns (h : '\r' ∉ s) : read (String.ofList (withReturns s)) = read (String.ofList s) := by
  rw [read_ofList, read_ofList, Text.lines_withReturns h]

/-- **Each line is read on its own**, and how it is ended makes no difference. -/
theorem reads_linewise (h : IsMadeOf ls s) (hls : ∀ l ∈ ls, IsLine l) :
    read (String.ofList s) = (ls.flatMap fun l => read (String.ofList l)) ∧
      (∀ before l after t, ls = before ++ l :: after → IsSilent l → IsMadeOf (before ++ after) t →
        read (String.ofList t) = read (String.ofList s)) ∧
      ∀ t, '\r' ∉ t → read (String.ofList (withReturns t)) = read (String.ofList t) := by
  refine ⟨?_, ?_, fun t ht => read_withReturns ht⟩
  · rw [read_of_isMadeOf h hls]
    exact List.flatMap_congr fun l hl => (read_of_isLine (hls l hl)).symm
  · rintro before l after t rfl hsilent ht
    have hrest : ∀ l ∈ before ++ after, IsLine l := by
      intro k hk
      refine hls k ?_
      rw [List.mem_append, List.mem_cons]
      exact (List.mem_append.1 hk).imp_right .inr
    rw [read_of_isMadeOf ht hrest, read_of_isMadeOf h hls, List.flatMap_append, List.flatMap_append, List.flatMap_cons,
      violation?_eq_none_of_isSilent hsilent]
    rfl

/-- A banner, a line that is put in and left out, and a last line with and without an ending. -/
theorem reads_linewise_mixed :
    let banner := "Found 2 errors.".toList
    let great : Line :=
      ⟨"a.ts".toList, "4294967296".toList, ['1'], [' '], [' '], "2322".toList, " Cannot find name 'y'.".toList⟩
    let last := "b.ts(2,4): error TS2304: b".toList
    let s := banner ++ (['\r', '\n'] ++ (great.text ++ (['\n'] ++ last)))
    let t := banner ++ (['\n'] ++ (last ++ (['\n'] ++ [])))
    IsMadeOf [banner, great.text, last] s ∧ (∀ l ∈ [banner, great.text, last], IsLine l) ∧ IsSilent great.text ∧
      IsMadeOf ([banner] ++ [last]) t ∧ '\r' ∉ t ∧
      read (String.ofList s) = ([banner, great.text, last].flatMap fun l => read (String.ofList l)) ∧
      read (String.ofList t) = read (String.ofList s) ∧
      read (String.ofList (withReturns t)) = read (String.ofList t) := by
  intro banner great last s t
  have hs : IsMadeOf [banner, great.text, last] s :=
    .ended banner .carriageReturn (.ended great.text .lineFeed (.unended last))
  have ht : IsMadeOf ([banner] ++ [last]) t := .ended banner .lineFeed (.ended last .lineFeed .empty)
  have hlines : ∀ l ∈ [banner, great.text, last], IsLine l := by
    rw [List.forall_mem_cons, List.forall_mem_cons, List.forall_mem_singleton]
    refine ⟨⟨?_, ?_⟩, ⟨?_, ?_⟩, ?_, ?_⟩ <;> decide +kernel
  have hplace : great.HasPlace := ⟨by decide, List.all_eq_true.1 (by decide), List.all_eq_true.1 (by decide)⟩
  have hgreat : IsSilent great.text := .tooGreat hplace (.inl (by decide))
  have hreturn : '\r' ∉ t := by decide +kernel
  obtain ⟨hread, hskip, hreturns⟩ := reads_linewise hs hlines
  exact ⟨hs, hlines, hgreat, ht, hreturn, hread, hskip [banner] great.text [last] t rfl hgreat ht, hreturns t hreturn⟩

end LintGloss.Diagnostic.Tsc
