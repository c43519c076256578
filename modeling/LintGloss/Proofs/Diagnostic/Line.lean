import LintGloss.Diagnostic.Tsc
import LintGloss.Proofs.Text.Front
/-!
# Lines of the TypeScript compiler

The form of a line is given by its parts (`Line`), and the reading accepts a line exactly if it has that form
(`violation?_eq_some_iff`).  No line has it in two ways: what comes behind a part begins with a character that the part
cannot hold, so that each part ends at one place.
-/

namespace LintGloss.Diagnostic.Tsc

open Text (isBlank isDecimalDigit span_eq_iff nonempty_span_eq_some_iff front_unique dropWhile_append_of_front)
open Violation (greatestCoordinate)

/-! ## The form of a line -/

/-- The parts of a line that differ from line to line. -/
structure Line where
  path : List Char
  line : List Char
  column : List Char
  /-- The blanks in front of `error`. -/
  gap : List Char
  /-- The blanks behind `error`. -/
  space : List Char
  number : List Char
  message : List Char

def Line.text (l : Line) : List Char :=
  l.path ++ ['('] ++ l.line ++ [','] ++ l.column ++ [')', ':'] ++ l.gap ++ ['e', 'r', 'r', 'o', 'r'] ++ l.space ++
    ['T', 'S'] ++ l.number ++ [':'] ++ l.message

/-- Digits that write a line or a column. -/
structure IsCoordinate (ds : List Char) : Prop where
  ne_nil : ds ≠ []
  digits : ∀ d ∈ ds, d.isDigit = true
  le : Text.decimalValue ds ≤ greatestCoordinate

structure Line.WellFormed (l : Line) : Prop where
  path_ne_nil : l.path ≠ []
  path_open : '(' ∉ l.path
  line : IsCoordinate l.line
  column : IsCoordinate l.column
  gap : ∀ c ∈ l.gap, isBlank c = true
  space_ne_nil : l.space ≠ []
  space : ∀ c ∈ l.space, isBlank c = true
  number_ne_nil : l.number ≠ []
  number : ∀ c ∈ l.number, isDecimalDigit c = true
  message_ne_nil : l.message ≠ []

def Line.violation (l : Line) : Violation where
  tool := .typescript
  file := Text.trimmed (String.ofList l.path)
  line := max 1 (Text.decimalValue l.line)
  column := max 1 (Text.decimalValue l.column)
  code := "TS" ++ String.ofList l.number
  message := Text.trimmed (String.ofList l.message)

/-! ## Parts that are read -/

theorem after?_eq_some_iff {r : List Char} : ∀ {cs s : List Char}, after? cs s = some r ↔ s = cs ++ r
  | [], s => by simp [after?]
  | c :: cs, [] => by simp [after?]
  | c :: cs, d :: s => by
    by_cases h : c = d
    · simp [after?, h, after?_eq_some_iff]
    · simp [after?, h, Ne.symm h]

theorem digits?_eq_some_iff {s ds r : List Char} : digits? s = some (ds, r) ↔
    ds ≠ [] ∧ s = ds ++ r ∧ (∀ d ∈ ds, isDecimalDigit d = true) ∧ ∀ c ∈ r.head?, isDecimalDigit c = false := by
  have hspan : digits? s = if (s.span isDecimalDigit).1 = [] then none else some (s.span isDecimalDigit) := by
    unfold digits?
    generalize s.span isDecimalDigit = cut
    obtain ⟨_ | ⟨d, ds⟩, r⟩ := cut <;> rfl
  rw [hspan]
  exact nonempty_span_eq_some_iff

theorem coordinate?_eq_some_iff {ds : List Char} {n : Nat} : coordinate? ds = some n ↔
    (∀ d ∈ ds, d.isDigit = true) ∧ Text.decimalValue ds ≤ greatestCoordinate ∧ Text.decimalValue ds = n := by
  simp [coordinate?, Option.ite_none_right_eq_some, and_assoc]

theorem IsCoordinate.coordinate? {ds : List Char} (h : IsCoordinate ds) :
    coordinate? ds = some (Text.decimalValue ds) := coordinate?_eq_some_iff.2 ⟨h.digits, h.le, rfl⟩

theorem IsCoordinate.digits? {ds : List Char} (h : IsCoordinate ds) {r : List Char}
    (hr : ∀ c ∈ r.head?, isDecimalDigit c = false) : digits? (ds ++ r) = some (ds, r) :=
  digits?_eq_some_iff.2 ⟨h.ne_nil, rfl, fun d hd => Text.isDecimalDigit_of_isDigit (h.digits d hd), hr⟩

theorem head?_cons_of {p : Char → Bool} {c : Char} (hc : p c = false) (r : List Char) :
    ∀ x ∈ (c :: r).head?, p x = false := by
  intro x hx
  rwa [← Option.some.inj hx]

/-! ## Lines that are read -/

theorem Line.text_eq (l : Line) : l.text = l.path ++ '(' :: (l.line ++ ',' :: (l.column ++ ')' :: ':' ::
    (l.gap ++ 'e' :: 'r' :: 'r' :: 'o' :: 'r' :: (l.space ++ 'T' :: 'S' :: (l.number ++ ':' :: l.message))))) := by
  simp [text]

theorem Line.ofParts_eq_violation (l : Line) :
    Violation.ofParts .typescript (Text.trimmed (String.ofList l.path)) (Text.decimalValue l.line)
      (Text.decimalValue l.column) (String.ofList ('T' :: 'S' :: l.number)) (String.ofList l.message) = l.violation := by
  have hcode : String.ofList ('T' :: 'S' :: l.number) = "TS" ++ String.ofList l.number :=
    @String.ofList_append ['T', 'S'] l.number
  rw [Violation.ofParts, Line.violation, hcode, Nat.max_comm, Nat.max_comm (Text.decimalValue l.column)]

/-- The blanks that are skipped. -/
theorem takeWhile_append_skipBlanks (s : List Char) : s.takeWhile isBlank ++ skipBlanks s = s :=
  List.takeWhile_append_dropWhile

theorem takeWhile_isBlank_ne_nil {s : List Char} (h : ¬ s.head?.all (!isBlank ·) = true) :
    s.takeWhile isBlank ≠ [] := by
  cases s with
  | nil => exact absurd rfl h
  | cons c s =>
    have hc : isBlank c = true := by simpa using h
    rw [List.takeWhile_cons_of_pos hc]
    exact List.cons_ne_nil _ _

variable {l l' : Line} {s : List Char} {v : Violation}

theorem violation?_text (h : l.WellFormed) : violation? l.text = some l.violation := by
  obtain ⟨b, space, hspace⟩ := List.exists_cons_of_ne_nil h.space_ne_nil
  have hblank : isBlank b = true := h.space b (by simp [hspace])
  rw [Line.text_eq, violation?]
  -- what stands behind each part begins with a mark that ends the part
  generalize hmessage : ':' :: l.message = s₁
  generalize hnumber : 'T' :: 'S' :: (l.number ++ s₁) = s₂
  generalize herror : 'e' :: 'r' :: 'r' :: 'o' :: 'r' :: (l.space ++ s₂) = s₃
  generalize hclose : ')' :: ':' :: (l.gap ++ s₃) = s₄
  generalize hcomma : ',' :: (l.column ++ s₄) = s₅
  have hpath : (l.path ++ '(' :: (l.line ++ s₅)).span (· ≠ '(') = (l.path, '(' :: (l.line ++ s₅)) := by
    refine span_eq_iff.2 ⟨rfl, fun c hc => ?_, head?_cons_of (by simp) _⟩
    have hne : c ≠ '(' := fun heq => h.path_open (heq ▸ hc)
    simpa using hne
  have hline : digits? (l.line ++ s₅) = some (l.line, s₅) :=
    h.line.digits? (hcomma ▸ head?_cons_of (by decide) _)
  have hcolumn : digits? (l.column ++ s₄) = some (l.column, s₄) :=
    h.column.digits? (hclose ▸ head?_cons_of (by decide) _)
  have hgap : skipBlanks (l.gap ++ s₃) = s₃ :=
    dropWhile_append_of_front h.gap (herror ▸ head?_cons_of (by decide) _)
  have hskip : skipBlanks (l.space ++ s₂) = s₂ :=
    dropWhile_append_of_front h.space (hnumber ▸ head?_cons_of (by decide) _)
  have hhead : (l.space ++ s₂).head?.all (!isBlank ·) = false := by simp [hspace, hblank]
  have hdigits : digits? (l.number ++ s₁) = some (l.number, s₁) :=
    digits?_eq_some_iff.2 ⟨h.number_ne_nil, rfl, h.number, hmessage ▸ head?_cons_of (by decide) _⟩
  have hafterPath : after? ['('] ('(' :: (l.line ++ s₅)) = some (l.line ++ s₅) := after?_eq_some_iff.2 rfl
  have hafterLine : after? [','] s₅ = some (l.column ++ s₄) := after?_eq_some_iff.2 hcomma.symm
  have hafterColumn : after? [')', ':'] s₄ = some (l.gap ++ s₃) := after?_eq_some_iff.2 hclose.symm
  have hafterGap : after? "error".toList s₃ = some (l.space ++ s₂) := after?_eq_some_iff.2 herror.symm
  have hafterSpace : after? ['T', 'S'] s₂ = some (l.number ++ s₁) := after?_eq_some_iff.2 hnumber.symm
  have hafterNumber : after? [':'] s₁ = some l.message := after?_eq_some_iff.2 hmessage.symm
  simp only [hpath, if_neg h.path_ne_nil, hafterPath, hline, hafterLine, hcolumn, hafterColumn, hgap, hafterGap, hhead,
    hskip, hafterSpace, hdigits, hafterNumber, if_neg h.message_ne_nil, h.line.coordinate?, h.column.coordinate?, bind,
    Option.bind_some, if_neg Bool.false_ne_true, l.ofParts_eq_violation]

theorem exists_line (h : violation? s = some v) : ∃ l : Line, l.WellFormed ∧ l.text = s ∧ l.violation = v := by
  unfold violation? at h
  generalize hpath : s.span (· ≠ '(') = cut at h
  obtain ⟨path, s₁⟩ := cut
  obtain ⟨hs, hopen, -⟩ := span_eq_iff.1 hpath
  obtain ⟨hpathne, h⟩ := Option.ite_none_left_eq_some.1 h
  -- the steps of the reading in their order, each of which gave something
  obtain ⟨s₂, h₂, h⟩ := Option.bind_eq_some_iff.1 h
  obtain ⟨⟨line, s₃⟩, h₃, h⟩ := Option.bind_eq_some_iff.1 h
  obtain ⟨s₄, h₄, h⟩ := Option.bind_eq_some_iff.1 h
  obtain ⟨⟨column, s₅⟩, h₅, h⟩ := Option.bind_eq_some_iff.1 h
  obtain ⟨s₆, h₆, h⟩ := Option.bind_eq_some_iff.1 h
  obtain ⟨s₇, h₇, h⟩ := Option.bind_eq_some_iff.1 h
  obtain ⟨hhead, h⟩ := Option.ite_none_left_eq_some.1 h
  obtain ⟨s₈, h₈, h⟩ := Option.bind_eq_some_iff.1 h
  obtain ⟨⟨number, s₉⟩, h₉, h⟩ := Option.bind_eq_some_iff.1 h
  obtain ⟨message, h₁₀, h⟩ := Option.bind_eq_some_iff.1 h
  obtain ⟨hmessage, h⟩ := Option.ite_none_left_eq_some.1 h
  obtain ⟨m, hm, h⟩ := Option.bind_eq_some_iff.1 h
  obtain ⟨n, hn, h⟩ := Option.bind_eq_some_iff.1 h
  obtain ⟨hlinene, hs₂, -, -⟩ := digits?_eq_some_iff.1 h₃
  obtain ⟨hcolumnne, hs₄, -, -⟩ := digits?_eq_some_iff.1 h₅
  obtain ⟨hnumberne, hs₈, hnumber, -⟩ := digits?_eq_some_iff.1 h₉
  obtain ⟨hlinedigits, hlinele, rfl⟩ := coordinate?_eq_some_iff.1 hm
  obtain ⟨hcolumndigits, hcolumnle, rfl⟩ := coordinate?_eq_some_iff.1 hn
  -- what was skipped are the blanks of the line
  have hgap := takeWhile_append_skipBlanks s₆
  have hspace := takeWhile_append_skipBlanks s₇
  rw [after?_eq_some_iff.1 h₇] at hgap
  rw [after?_eq_some_iff.1 h₈, hs₈, after?_eq_some_iff.1 h₁₀] at hspace
  let l : Line := ⟨path, line, column, s₆.takeWhile isBlank, s₇.takeWhile isBlank, number, message⟩
  have hwell : l.WellFormed :=
    { path_ne_nil := hpathne
      path_open := fun hmem => by simpa using hopen '(' hmem
      line := ⟨hlinene, hlinedigits, hlinele⟩
      column := ⟨hcolumnne, hcolumndigits, hcolumnle⟩
      gap := List.all_eq_true.1 List.all_takeWhile
      space_ne_nil := takeWhile_isBlank_ne_nil hhead
      space := List.all_eq_true.1 List.all_takeWhile
      number_ne_nil := hnumberne
      number := hnumber
      message_ne_nil := hmessage }
  have htext : l.text = s := by
    rw [hs, after?_eq_some_iff.1 h₂, hs₂, after?_eq_some_iff.1 h₄, hs₄, after?_eq_some_iff.1 h₆, ← hgap, ← hspace,
      Line.text_eq]
    simp [l]
  exact ⟨l, hwell, htext, l.ofParts_eq_violation.symm.trans (Option.some.inj h)⟩

/-! ## One form -/

/-- The path and the two numbers end where they seem to, however great the numbers are. -/
structure Line.HasPlace (l : Line) : Prop where
  path : '(' ∉ l.path
  line : ∀ d ∈ l.line, d.isDigit = true
  column : ∀ d ∈ l.column, d.isDigit = true

/-- What stands behind the place. -/
def Line.remark (l : Line) : List Char :=
  l.gap ++ 'e' :: 'r' :: 'r' :: 'o' :: 'r' :: (l.space ++ 'T' :: 'S' :: (l.number ++ ':' :: l.message))

theorem Line.WellFormed.hasPlace (h : l.WellFormed) : l.HasPlace := ⟨h.path_open, h.line.digits, h.column.digits⟩

theorem Line.HasPlace.eq_of_text_eq (h : l.HasPlace) (h' : l'.HasPlace) (heq : l.text = l'.text) :
    l.path = l'.path ∧ l.line = l'.line ∧ l.column = l'.column ∧ l.remark = l'.remark := by
  have hnotOpen {k : Line} (hk : k.HasPlace) : ∀ c ∈ k.path, decide (c ≠ '(') = true := by
    intro c hc
    have hne : c ≠ '(' := fun heq => hk.path (heq ▸ hc)
    simpa using hne
  rw [text_eq, text_eq] at heq
  -- part by part from the left, each ended by the mark behind it
  obtain ⟨hpath, heq⟩ := front_unique (hnotOpen h) (head?_cons_of (by simp) _) (hnotOpen h')
    (head?_cons_of (by simp) _) heq
  obtain ⟨hline, heq⟩ := front_unique h.line (head?_cons_of (by decide) _) h'.line (head?_cons_of (by decide) _)
    (List.cons.inj heq).2
  obtain ⟨hcolumn, heq⟩ := front_unique h.column (head?_cons_of (by decide) _) h'.column
    (head?_cons_of (by decide) _) (List.cons.inj heq).2
  simp only [List.cons.injEq, true_and] at heq
  exact ⟨hpath, hline, hcolumn, heq⟩

/-- What stands behind a part tells where the part ends. -/
theorem Line.WellFormed.eq_of_text_eq (h : l.WellFormed) (h' : l'.WellFormed) (heq : l.text = l'.text) : l = l' := by
  obtain ⟨hpath, hline, hcolumn, heq⟩ := h.hasPlace.eq_of_text_eq h'.hasPlace heq
  obtain ⟨hgap, heq⟩ := front_unique h.gap (head?_cons_of (by decide) _) h'.gap (head?_cons_of (by decide) _) heq
  simp only [List.cons.injEq, true_and] at heq
  obtain ⟨hspace, heq⟩ := front_unique h.space (head?_cons_of (by decide) _) h'.space (head?_cons_of (by decide) _) heq
  simp only [List.cons.injEq, true_and] at heq
  obtain ⟨hnumber, heq⟩ := front_unique h.number (head?_cons_of (by decide) _) h'.number
    (head?_cons_of (by decide) _) heq
  obtain ⟨-, hmessage⟩ := List.cons.inj heq
  cases l
  cases l'
  simp_all

/-- **The lines that are read are those of one form, and they have it in one way.** -/
theorem violation?_eq_some_iff (s : List Char) :
    (∀ v, violation? s = some v ↔ ∃ l : Line, l.WellFormed ∧ l.text = s ∧ l.violation = v) ∧
      (violation? s = none ↔ ¬ ∃ l : Line, l.WellFormed ∧ l.text = s) ∧
      ∀ l l' : Line, l.WellFormed → l.text = s → l'.WellFormed → l'.text = s → l = l' := by
  refine ⟨fun v => ⟨exists_line, ?_⟩, ?_, fun l l' h hs h' hs' => h.eq_of_text_eq h' (hs.trans hs'.symm)⟩
  · rintro ⟨l, h, rfl, rfl⟩
    exact violation?_text h
  · constructor
    · rintro hnone ⟨l, h, rfl⟩
      rw [violation?_text h] at hnone
      cases hnone
    · intro hno
      cases hv : violation? s with
      | none => rfl
      | some v =>
        obtain ⟨l, h, hs, -⟩ := exists_line hv
        exact absurd ⟨l, h, hs⟩ hno

/-- Blanks only are a message, and the greatest coordinate may have zeros in front. -/
example : violation? "a b(0,004294967295):error\tTS٣: ".toList =
    some ⟨.typescript, "a b", 1, 4294967295, "TS٣", ""⟩ := by decide +kernel

end LintGloss.Diagnostic.Tsc
