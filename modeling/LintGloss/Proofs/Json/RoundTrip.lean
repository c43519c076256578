import LintGloss.Proofs.Json.Layout
import LintGloss.Proofs.Json.Reader
/-!
# Written values are read

A text in either layout is read as the value that it was written for (`parse?_renderAt`), if the value is not too deep
and its numbers are integers of 64 bits.  The layout gives the tokens, and the tokens give the value.
-/

namespace LintGloss.Json

/-! ## From the text to the tokens -/

theorem Spread.spelled {s : List Char} {ts : List Token} (h : Spread s ts) (hts : ∀ t ∈ ts, t.IsReadable) :
    Spelled s ts := by
  induction h with
  | nil => exact .nil
  | space hc h ih => exact .space hc (ih hts)
  | token hend h ih =>
    obtain ⟨ht, hts⟩ := List.forall_mem_cons.1 hts
    exact .token (Token.spelledBy_text ht) hend (ih hts)

/-! ## From the tokens to the value -/

namespace Reader

theorem run_tokensOfItems {stack : List Frame} : ∀ {items : List Json} (done : List Json),
    (∀ j ∈ items, ∀ stack, stack.length + j.depth ≤ depthLimit → run (.value stack) j.tokens = some (give j stack)) →
    (∀ j ∈ items, stack.length + 1 + j.depth ≤ depthLimit) →
    run (.afterItem done stack) (tokensOfItems items) = some (.afterItem (items.reverse ++ done) stack)
  | [], done, _, _ => rfl
  | j :: items, done, h, hd => by
    obtain ⟨hj, hitems⟩ := List.forall_mem_cons.1 h
    obtain ⟨hdj, hditems⟩ := List.forall_mem_cons.1 hd
    have hitem : run (.value (.arr done :: stack)) j.tokens = some (.afterItem (j :: done) stack) :=
      hj (.arr done :: stack) hdj
    rw [tokensOfItems, run_cons, step, Option.bind_some, run_append, hitem, Option.bind_some,
      run_tokensOfItems (j :: done) hitems hditems, List.reverse_cons, List.append_assoc]
    rfl

theorem run_tokensOfMembers {stack : List Frame} : ∀ {members : List (String × Json)} (done : List (String × Json)),
    (∀ m ∈ members, ∀ stack, stack.length + m.2.depth ≤ depthLimit →
      run (.value stack) m.2.tokens = some (give m.2 stack)) →
    (∀ m ∈ members, stack.length + 1 + m.2.depth ≤ depthLimit) →
    run (.afterMember done stack) (tokensOfMembers members) = some (.afterMember (members.reverse ++ done) stack)
  | [], done, _, _ => rfl
  | (k, j) :: members, done, h, hd => by
    obtain ⟨hj, hmembers⟩ := List.forall_mem_cons.1 h
    obtain ⟨hdj, hdmembers⟩ := List.forall_mem_cons.1 hd
    have hmember : run (.value (.obj done k :: stack)) j.tokens = some (.afterMember ((k, j) :: done) stack) :=
      hj (.obj done k :: stack) hdj
    rw [tokensOfMembers, run_cons, step, Option.bind_some, run_cons, step, Option.bind_some, run_cons, step,
      Option.bind_some, run_append, hmember, Option.bind_some, run_tokensOfMembers ((k, j) :: done) hmembers hdmembers,
      List.reverse_cons, List.append_assoc]
    rfl

/-- **The tokens of a value are read as the value**, where there is room for it. -/
theorem run_tokens (j : Json) : ∀ stack : List Frame, stack.length + j.depth ≤ depthLimit →
    run (.value stack) j.tokens = some (give j stack) := by
  induction j using Json.induction with
  | null | bool | int | real | str => exact fun _ _ => rfl
  | arr items ih =>
    intro stack hd
    rw [depth] at hd
    have hroom : stack.length < depthLimit := by omega
    have hopen : step (.value stack) .arrOpen = some (.firstItem stack) := if_pos hroom
    -- an item has one level less than the array
    have hitems : ∀ j ∈ items, stack.length + 1 + j.depth ≤ depthLimit := by
      intro j hj
      have := depthOfItems_le_iff.1 (Nat.le_refl _) j hj
      omega
    cases items with
    | nil =>
      rw [tokens, run_cons, hopen]
      rfl
    | cons j items =>
      obtain ⟨hj, hrest⟩ := List.forall_mem_cons.1 ih
      obtain ⟨hdj, hdrest⟩ := List.forall_mem_cons.1 hitems
      have hfirst : run (.firstItem stack) j.tokens = some (.afterItem [j] stack) :=
        run_firstItem (hj (.arr [] :: stack) hdj)
      rw [tokens, run_cons, hopen, Option.bind_some, run_append, hfirst, Option.bind_some, run_append,
        run_tokensOfItems [j] hrest hdrest, Option.bind_some, run_cons, step, List.reverse_append, List.reverse_reverse]
      rfl
  | obj members ih =>
    intro stack hd
    rw [depth] at hd
    have hroom : stack.length < depthLimit := by omega
    have hopen : step (.value stack) .objOpen = some (.firstKey stack) := if_pos hroom
    have hmembers : ∀ m ∈ members, stack.length + 1 + m.2.depth ≤ depthLimit := by
      intro m hm
      have := depthOfMembers_le_iff.1 (Nat.le_refl _) m hm
      omega
    cases members with
    | nil =>
      rw [tokens, run_cons, hopen]
      rfl
    | cons m members =>
      obtain ⟨k, j⟩ := m
      obtain ⟨hj, hrest⟩ := List.forall_mem_cons.1 ih
      obtain ⟨hdj, hdrest⟩ := List.forall_mem_cons.1 hmembers
      have hfirst : run (.value (.obj [] k :: stack)) j.tokens = some (.afterMember [(k, j)] stack) :=
        hj (.obj [] k :: stack) hdj
      rw [tokens, run_cons, hopen, Option.bind_some, run_cons, step, Option.bind_some, run_cons, step, Option.bind_some,
        run_append, hfirst, Option.bind_some, run_append, run_tokensOfMembers [(k, j)] hrest hdrest, Option.bind_some,
        run_cons, step, List.reverse_append, List.reverse_reverse]
      rfl

end Reader

/-! ## Both steps -/

/-- A value whose numbers are integers of 64 bits. -/
def IsPlain (j : Json) : Prop := ∀ t ∈ j.tokens, t.IsPlain

/-- **Every text of a value is read as the value**, if there is room for it. -/
theorem parse?_of_spelled {s : List Char} {j : Json} (h : Spelled s j.tokens) (hd : j.depth ≤ Reader.depthLimit) :
    parse? s = some j := by
  have hlex : lex s = some j.tokens := lex_eq_some_iff.2 h.lexes
  have hrun : Reader.run (.value []) j.tokens = some (.finished j) :=
    Reader.run_tokens j [] (Nat.le_trans (Nat.le_of_eq (Nat.zero_add _)) hd)
  rw [parse?, hlex]
  show ofTokens? j.tokens = some j
  rw [ofTokens?, hrun]

theorem parse?_of_spread {s : List Char} {j : Json} (h : Spread s j.tokens) (hj : j.IsPlain)
    (hd : j.depth ≤ Reader.depthLimit) : parse? s = some j :=
  parse?_of_spelled (h.spelled fun t ht => (hj t ht).isReadable) hd

/-- **What is written is read**, in either layout. -/
theorem parse?_renderAt (l : Layout) (depth : Nat) {j : Json} (hj : j.IsPlain) (hd : j.depth ≤ Reader.depthLimit) :
    parse? (renderAt l depth j) = some j :=
  parse?_of_spread (spread_renderAt l j depth) hj hd

/-- A line feed at the end changes nothing. -/
theorem parse?_renderAt_lineFeed (l : Layout) (depth : Nat) {j : Json} (hj : j.IsPlain)
    (hd : j.depth ≤ Reader.depthLimit) : parse? (renderAt l depth j ++ ['\n']) = some j := by
  have hfeed : Spread ['\n'] [] := .space rfl .nil
  have hline : Spread (renderAt l depth j ++ ['\n']) (j.tokens ++ []) :=
    (spread_renderAt l j depth).append hfeed (endsNumber_cons (by decide) [])
  rw [List.append_nil] at hline
  exact parse?_of_spread hline hj hd

def IsTextOf (j : Json) (output : String) : Prop :=
  ∃ before s after, output.toList = before ++ (s ++ after) ∧ (∀ c ∈ before, Text.isBlank c = true) ∧
    (∀ c ∈ after, Text.isBlank c = true) ∧ Spelled s j.tokens

/-- Blanks around a text are not read, even those that are no space between tokens. -/
theorem IsTextOf.parse?_trim {j : Json} {output : String} (h : j.IsTextOf output) (hd : j.depth ≤ Reader.depthLimit) :
    parse? (Text.trim output.toList) = some j := by
  obtain ⟨before, s, after, houtput, hbefore, hafter, hs⟩ := h
  rw [houtput]
  exact parse?_of_spelled (hs.trim hbefore hafter) hd

/-- A value whose numbers are integers of 64 bits, or reals that a double holds. -/
def IsReadable (j : Json) : Prop := ∀ t ∈ j.tokens, t.IsReadable

instance (j : Json) : Decidable j.IsReadable := inferInstanceAs (Decidable (∀ t ∈ j.tokens, t.IsReadable))

theorem IsPlain.isReadable {j : Json} (h : j.IsPlain) : j.IsReadable := fun t ht => (h t ht).isReadable

theorem IsReadable.isTextOf {j : Json} (hj : j.IsReadable) (l : Layout) {before after : String}
    (hbefore : Text.isAllBlank before = true) (hafter : Text.isAllBlank after = true) :
    j.IsTextOf (before ++ j.render l ++ after) := by
  have hs : Spelled (renderAt l 0 j) j.tokens := (spread_renderAt l j 0).spelled hj
  refine ⟨before.toList, renderAt l 0 j, after.toList, ?_, List.all_eq_true.1 hbefore, List.all_eq_true.1 hafter, hs⟩
  rw [String.toList_append, String.toList_append, render, String.toList_ofList, List.append_assoc]

/-! ## Plain values -/

@[simp] theorem isPlain_null : IsPlain .null := by simp [IsPlain, tokens, Token.IsPlain]

@[simp] theorem isPlain_bool (b : Bool) : IsPlain (.bool b) := by simp [IsPlain, tokens, Token.IsPlain]

@[simp] theorem isPlain_str (s : String) : IsPlain (.str s) := by simp [IsPlain, tokens, Token.IsPlain]

@[simp] theorem isPlain_int {n : Int} : IsPlain (.int n) ↔ Fits64 n := by simp [IsPlain, tokens, Token.IsPlain]

/-- The least natural number that has more than 64 bits. -/
def natLimit : Nat := 0x10000000000000000

@[simp] theorem isPlain_nat {n : Nat} : IsPlain (.nat n) ↔ n < natLimit := by
  rw [nat, isPlain_int, Fits64, natLimit]
  omega

theorem isPlain_tokensOfItems : ∀ {items : List Json},
    (∀ t ∈ tokensOfItems items, t.IsPlain) ↔ ∀ j ∈ items, IsPlain j
  | [] => by simp [tokensOfItems]
  | j :: items => by
    rw [tokensOfItems, List.forall_mem_cons, List.forall_mem_append, isPlain_tokensOfItems, List.forall_mem_cons]
    exact ⟨fun h => h.2, fun h => ⟨trivial, h⟩⟩

theorem isPlain_tokensOfMembers : ∀ {members : List (String × Json)},
    (∀ t ∈ tokensOfMembers members, t.IsPlain) ↔ ∀ m ∈ members, IsPlain m.2
  | [] => by simp [tokensOfMembers]
  | (k, j) :: members => by
    rw [tokensOfMembers, List.forall_mem_cons, List.forall_mem_cons, List.forall_mem_cons, List.forall_mem_append,
      isPlain_tokensOfMembers, List.forall_mem_cons]
    exact ⟨fun h => h.2.2.2, fun h => ⟨trivial, trivial, trivial, h⟩⟩

@[simp] theorem isPlain_arr {items : List Json} : IsPlain (.arr items) ↔ ∀ j ∈ items, IsPlain j := by
  cases items with
  | nil => simp [IsPlain, tokens, Token.IsPlain]
  | cons j items =>
    rw [IsPlain, tokens, List.forall_mem_cons, List.forall_mem_append, List.forall_mem_append, isPlain_tokensOfItems,
      List.forall_mem_singleton, List.forall_mem_cons]
    exact ⟨fun h => ⟨h.2.1, h.2.2.1⟩, fun h => ⟨trivial, h.1, h.2, trivial⟩⟩

@[simp] theorem isPlain_obj {members : List (String × Json)} : IsPlain (.obj members) ↔ ∀ m ∈ members, IsPlain m.2 := by
  cases members with
  | nil => simp [IsPlain, tokens, Token.IsPlain]
  | cons m members =>
    obtain ⟨k, j⟩ := m
    rw [IsPlain, tokens, List.forall_mem_cons, List.forall_mem_cons, List.forall_mem_cons, List.forall_mem_append,
      List.forall_mem_append, isPlain_tokensOfMembers, List.forall_mem_singleton, List.forall_mem_cons]
    exact ⟨fun h => ⟨h.2.2.2.1, h.2.2.2.2.1⟩, fun h => ⟨trivial, trivial, trivial, h.1, h.2, trivial⟩⟩

/-! ## Sorted members -/

theorem IsPlain.sortKeys {j : Json} : j.IsPlain → j.sortKeys.IsPlain := by
  induction j using Json.induction with
  | null | bool | int | real | str => exact id
  | arr items ih =>
    intro h
    rw [Json.sortKeys, sortItems_eq_map, isPlain_arr]
    rw [isPlain_arr] at h
    exact List.forall_mem_map.2 fun j hj => ih j hj (h j hj)
  | obj members ih =>
    intro h
    rw [Json.sortKeys, sortValues_eq_map, isPlain_obj]
    rw [isPlain_obj] at h
    intro m hm
    obtain ⟨m, hmem, rfl⟩ := List.mem_map.1 (mem_sortMembers.1 hm)
    exact ih m hmem (h m hmem)

theorem depth_sortKeys_le (j : Json) : j.sortKeys.depth ≤ j.depth := by
  induction j using Json.induction with
  | null | bool | int | real | str => exact Nat.le_refl _
  | arr items ih =>
    rw [Json.sortKeys, sortItems_eq_map, depth, depth, Nat.add_le_add_iff_right, depthOfItems_le_iff]
    refine List.forall_mem_map.2 fun j hj => ?_
    exact Nat.le_trans (ih j hj) (depthOfItems_le_iff.1 (Nat.le_refl _) j hj)
  | obj members ih =>
    rw [Json.sortKeys, sortValues_eq_map, depth, depth, Nat.add_le_add_iff_right, depthOfMembers_le_iff]
    intro m hm
    obtain ⟨m, hmem, rfl⟩ := List.mem_map.1 (mem_sortMembers.1 hm)
    exact Nat.le_trans (ih m hmem) (depthOfMembers_le_iff.1 (Nat.le_refl _) m hmem)

end LintGloss.Json
