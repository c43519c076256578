/-!
# Blanks

The characters that count as white space, and what it means to trim them off.
The set is the Unicode property *White_Space*: it holds the no-break spaces and
the line and paragraph separators, and it does not hold the zero-width space or
the byte order mark.

`trim` takes blanks off both ends of a text and leaves the blanks inside alone.
`head_trim` and `getLast_trim` say that nothing blank is left at either end, and
`trim_eq_self` that nothing else is taken.
-/

namespace LintGloss.Text

/-- The code points of *White_Space*, as closed ranges in rising order. -/
def blankRanges : List (Nat × Nat) :=
  [(0x9, 0xD), (0x20, 0x20), (0x85, 0x85), (0xA0, 0xA0), (0x1680, 0x1680), (0x2000, 0x200A),
   (0x2028, 0x2029), (0x202F, 0x202F), (0x205F, 0x205F), (0x3000, 0x3000)]

def isBlank (c : Char) : Bool := blankRanges.any fun r => r.1 ≤ c.toNat && c.toNat ≤ r.2

/-- Every character that core calls white space is a blank. -/
theorem isBlank_of_isWhitespace {c : Char} (h : c.isWhitespace = true) : isBlank c = true := by
  simp only [Char.isWhitespace, Bool.or_eq_true, decide_eq_true_eq] at h
  rcases h with ((rfl | rfl) | rfl) | rfl <;> decide

def trimLeft (s : List Char) : List Char := s.dropWhile isBlank

def trimRight (s : List Char) : List Char := (s.reverse.dropWhile isBlank).reverse

def trim (s : List Char) : List Char := trimRight (trimLeft s)

@[simp] theorem trim_nil : trim [] = [] := rfl

theorem head_trimLeft {s : List Char} {c : Char} (h : (trimLeft s).head? = some c) :
    isBlank c = false := by
  have := List.head?_dropWhile_not isBlank s
  simp only [trimLeft] at h
  rw [h] at this
  simpa using this

theorem getLast_trimRight {s : List Char} {c : Char} (h : (trimRight s).getLast? = some c) :
    isBlank c = false := by
  rw [trimRight, List.getLast?_reverse] at h
  exact head_trimLeft h

/-- Trimming on the right keeps a beginning of the text. -/
theorem trimRight_prefix (s : List Char) : trimRight s <+: s := by
  have h := List.dropWhile_suffix (l := s.reverse) isBlank
  rw [trimRight]
  simpa using List.reverse_prefix.2 h

theorem head_trim {s : List Char} {c : Char} (h : (trim s).head? = some c) :
    isBlank c = false := by
  obtain ⟨t, ht⟩ := trimRight_prefix (trimLeft s)
  refine head_trimLeft (s := s) ?_
  rw [← ht, List.head?_append]
  rw [trim] at h
  simp [h]

theorem getLast_trim {s : List Char} {c : Char} (h : (trim s).getLast? = some c) :
    isBlank c = false :=
  getLast_trimRight h

theorem trimLeft_eq_self {s : List Char} (h : ∀ c ∈ s.head?, isBlank c = false) : trimLeft s = s := by
  cases s with
  | nil => rfl
  | cons c s => exact List.dropWhile_cons_of_neg (by simp [h c rfl])

/-- A text with nothing blank at its ends stays as it is. -/
theorem trim_eq_self {s : List Char} (hhead : ∀ c ∈ s.head?, isBlank c = false)
    (hlast : ∀ c ∈ s.getLast?, isBlank c = false) : trim s = s := by
  have hreverse : trimLeft s.reverse = s.reverse := trimLeft_eq_self (by rwa [List.head?_reverse])
  rw [trim, trimLeft_eq_self hhead, trimRight, show s.reverse.dropWhile isBlank = s.reverse from hreverse,
    List.reverse_reverse]

/-- Blanks on both sides of a text are taken, and nothing of the text. -/
theorem trim_append {before s after : List Char} (hbefore : ∀ c ∈ before, isBlank c = true)
    (hafter : ∀ c ∈ after, isBlank c = true) (hhead : ∀ c ∈ s.head?, isBlank c = false)
    (hlast : ∀ c ∈ s.getLast?, isBlank c = false) : trim (before ++ (s ++ after)) = s := by
  have hreverse : ∀ c ∈ after.reverse, isBlank c = true := fun c hc => hafter c (List.mem_reverse.1 hc)
  rw [trim, trimLeft, List.dropWhile_append_of_pos hbefore]
  cases s with
  | nil =>
    rw [List.nil_append, ← List.append_nil after, List.dropWhile_append_of_pos hafter]
    rfl
  | cons c s =>
    have hleft : (c :: s ++ after).dropWhile isBlank = c :: s ++ after := trimLeft_eq_self hhead
    have hright : (c :: s).reverse.dropWhile isBlank = (c :: s).reverse := trimLeft_eq_self (by rwa [List.head?_reverse])
    rw [hleft, trimRight, List.reverse_append, List.dropWhile_append_of_pos hreverse, hright, List.reverse_reverse]

def trimmed (s : String) : String := String.ofList (trim s.toList)

def isAllBlank (s : String) : Bool := s.toList.all isBlank

end LintGloss.Text
