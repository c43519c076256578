import LintGloss.Json.Parser
/-!
# Values inside of others

What the machine does with one token is a relation (`Steps`), and everything about its runs is shown along that.  A run
that reads a value does so on top of open arrays and objects too, if they leave room for the depth of the value
(`run_value`).
-/

namespace LintGloss.Json

/-! ## Depth -/

mutual

/-- How many arrays and objects stand in one another. -/
def depth : Json → Nat
  | .arr items => depthOfItems items + 1
  | .obj members => depthOfMembers members + 1
  | _ => 0

def depthOfItems : List Json → Nat
  | [] => 0
  | j :: rest => max (depth j) (depthOfItems rest)

def depthOfMembers : List (String × Json) → Nat
  | [] => 0
  | (_, j) :: rest => max (depth j) (depthOfMembers rest)

end

@[simp] theorem depth_nat (n : Nat) : (nat n).depth = 0 := rfl

theorem depthOfItems_le_iff {d : Nat} : ∀ {items : List Json}, depthOfItems items ≤ d ↔ ∀ j ∈ items, depth j ≤ d
  | [] => by simp [depthOfItems]
  | j :: items => by rw [depthOfItems, Nat.max_le, depthOfItems_le_iff, List.forall_mem_cons]

theorem depthOfMembers_le_iff {d : Nat} : ∀ {members : List (String × Json)},
    depthOfMembers members ≤ d ↔ ∀ m ∈ members, depth m.2 ≤ d
  | [] => by simp [depthOfMembers]
  | (k, j) :: members => by rw [depthOfMembers, Nat.max_le, depthOfMembers_le_iff, List.forall_mem_cons]

theorem depthOfItems_le_reverse (items : List Json) : depthOfItems items ≤ depthOfItems items.reverse :=
  depthOfItems_le_iff.2 fun j hj => depthOfItems_le_iff.1 (Nat.le_refl _) j (List.mem_reverse.2 hj)

theorem depthOfMembers_le_reverse (members : List (String × Json)) :
    depthOfMembers members ≤ depthOfMembers members.reverse :=
  depthOfMembers_le_iff.2 fun m hm => depthOfMembers_le_iff.1 (Nat.le_refl _) m (List.mem_reverse.2 hm)

/-- How deep the values are that an open array or object holds. -/
def Frame.depth : Frame → Nat
  | .arr items => depthOfItems items
  | .obj members _ => depthOfMembers members

namespace Reader

/-! ## Steps -/

/-- What a token begins where a value must come. -/
inductive Begins (stack : List Frame) : Token → Reader → Prop
  | arr (h : stack.length < depthLimit) : Begins stack .arrOpen (.firstItem stack)
  | obj (h : stack.length < depthLimit) : Begins stack .objOpen (.firstKey stack)
  | scalar {t : Token} {j : Json} (h : scalar? t = some j) : Begins stack t (give j stack)

/-- What a token does to a reader. -/
inductive Steps : Reader → Token → Reader → Prop
  | value {stack : List Frame} {t : Token} {r : Reader} (h : Begins stack t r) : Steps (.value stack) t r
  | emptyArr (stack : List Frame) : Steps (.firstItem stack) .arrClose (give (.arr []) stack)
  | firstItem {stack : List Frame} {t : Token} {r : Reader} (h : Begins (.arr [] :: stack) t r) :
      Steps (.firstItem stack) t r
  | nextItem (items : List Json) (stack : List Frame) :
      Steps (.afterItem items stack) .comma (.value (.arr items :: stack))
  | endArr (items : List Json) (stack : List Frame) :
      Steps (.afterItem items stack) .arrClose (give (.arr items.reverse) stack)
  | emptyObj (stack : List Frame) : Steps (.firstKey stack) .objClose (give (.obj []) stack)
  | firstKey (k : String) (stack : List Frame) : Steps (.firstKey stack) (.str k) (.colon [] k stack)
  | nextKey (members : List (String × Json)) (k : String) (stack : List Frame) :
      Steps (.key members stack) (.str k) (.colon members k stack)
  | colon (members : List (String × Json)) (k : String) (stack : List Frame) :
      Steps (.colon members k stack) .colon (.value (.obj members k :: stack))
  | nextMember (members : List (String × Json)) (stack : List Frame) :
      Steps (.afterMember members stack) .comma (.key members stack)
  | endObj (members : List (String × Json)) (stack : List Frame) :
      Steps (.afterMember members stack) .objClose (give (.obj members.reverse) stack)

theorem begin_eq_some_iff {stack : List Frame} {t : Token} {r : Reader} :
    begin stack t = some r ↔ Begins stack t r := by
  constructor
  · intro h
    unfold begin at h
    split at h
    · obtain ⟨hroom, h⟩ := Option.ite_none_right_eq_some.1 h
      exact Option.some.inj h ▸ .arr hroom
    · obtain ⟨hroom, h⟩ := Option.ite_none_right_eq_some.1 h
      exact Option.some.inj h ▸ .obj hroom
    · obtain ⟨j, hj, rfl⟩ := Option.map_eq_some_iff.1 h
      exact .scalar hj
  · intro h
    cases h with
    | arr hroom => rw [begin, if_pos hroom]
    | obj hroom => rw [begin, if_pos hroom]
    | scalar hj =>
      unfold begin
      split
      · cases hj
      · cases hj
      · rw [hj, Option.map_some]

theorem step_eq_some_iff {r r' : Reader} {t : Token} : step r t = some r' ↔ Steps r t r' := by
  constructor
  · intro h
    unfold step at h
    split at h
    · exact .value (begin_eq_some_iff.1 h)
    · exact Option.some.inj h ▸ .emptyArr _
    · exact .firstItem (begin_eq_some_iff.1 h)
    · exact Option.some.inj h ▸ .nextItem _ _
    · exact Option.some.inj h ▸ .endArr _ _
    · exact Option.some.inj h ▸ .emptyObj _
    · exact Option.some.inj h ▸ .firstKey _ _
    · exact Option.some.inj h ▸ .nextKey _ _ _
    · exact Option.some.inj h ▸ .colon _ _ _
    · exact Option.some.inj h ▸ .nextMember _ _
    · exact Option.some.inj h ▸ .endObj _ _
    · cases h
  · intro h
    cases h with
    | value h => exact begin_eq_some_iff.2 h
    | firstItem h =>
      -- no value begins with the end of an array, so the branch of the empty array is another
      rw [step, begin_eq_some_iff.2 h]
      rintro rfl
      cases h with
      | scalar hj => cases hj
    | _ => rfl

/-! ## Room -/

/-- Open arrays and objects of which no value deeper than a bound can come. -/
def FitsStack (d : Nat) : List Frame → Prop
  | [] => True
  | f :: stack => stack.length + 1 + Frame.depth f ≤ d ∧ FitsStack d stack

/-- A reader of which a value no deeper than a bound can come. -/
def Fits (d : Nat) : Reader → Prop
  | .value stack => FitsStack d stack
  | .firstItem stack | .firstKey stack => stack.length + 1 ≤ d ∧ FitsStack d stack
  | .afterItem items stack => FitsStack d (.arr items :: stack)
  | .key members stack | .afterMember members stack => FitsStack d (.obj members "" :: stack)
  | .colon members k stack => FitsStack d (.obj members k :: stack)
  | .finished j => j.depth ≤ d

theorem fits_give {d : Nat} {j : Json} {stack : List Frame} (h : (give j stack).Fits d) :
    stack.length + j.depth ≤ d ∧ FitsStack d stack := by
  cases stack with
  | nil => exact ⟨Nat.le_trans (Nat.le_of_eq (Nat.zero_add _)) h, trivial⟩
  | cons f stack =>
    cases f with
    | arr items =>
      obtain ⟨hd, hstack⟩ := h
      simp only [Frame.depth, depthOfItems] at hd
      refine ⟨?_, ?_, hstack⟩
      · rw [List.length_cons]
        omega
      · rw [Frame.depth]
        omega
    | obj members k =>
      obtain ⟨hd, hstack⟩ := h
      simp only [Frame.depth, depthOfMembers] at hd
      refine ⟨?_, ?_, hstack⟩
      · rw [List.length_cons]
        omega
      · rw [Frame.depth]
        omega

theorem Begins.fits {d : Nat} {stack : List Frame} {t : Token} {r : Reader} (h : Begins stack t r) (hr : r.Fits d) :
    FitsStack d stack := by
  cases h with
  | arr | obj => exact hr.2
  | scalar => exact (fits_give hr).2

/-- Room after a step is room before it. -/
theorem Steps.fits {d : Nat} {r r' : Reader} {t : Token} (h : Steps r t r') (hr : r'.Fits d) : r.Fits d := by
  cases h with
  | value h => exact h.fits hr
  | firstItem h => exact h.fits hr
  | emptyArr | emptyObj => exact fits_give hr
  | nextItem | firstKey | nextKey | colon | nextMember => exact hr
  | endArr items stack =>
    obtain ⟨hd, hstack⟩ := fits_give hr
    have hle := depthOfItems_le_reverse items
    rw [depth] at hd
    refine ⟨?_, hstack⟩
    rw [Frame.depth]
    omega
  | endObj members stack =>
    obtain ⟨hd, hstack⟩ := fits_give hr
    have hle := depthOfMembers_le_reverse members
    rw [depth] at hd
    refine ⟨?_, hstack⟩
    rw [Frame.depth]
    omega

/-! ## Runs -/

theorem run_cons {r : Reader} {t : Token} {ts : List Token} :
    run r (t :: ts) = (step r t).bind fun r' => run r' ts := rfl

theorem run_append {r : Reader} {ts us : List Token} : run r (ts ++ us) = (run r ts).bind fun r' => run r' us :=
  List.foldlM_append ..

/-- The reader on top of further open arrays and objects. -/
def under (bottom : List Frame) : Reader → Reader
  | .value stack => .value (stack ++ bottom)
  | .firstItem stack => .firstItem (stack ++ bottom)
  | .afterItem items stack => .afterItem items (stack ++ bottom)
  | .firstKey stack => .firstKey (stack ++ bottom)
  | .key members stack => .key members (stack ++ bottom)
  | .colon members k stack => .colon members k (stack ++ bottom)
  | .afterMember members stack => .afterMember members (stack ++ bottom)
  | .finished j => give j bottom

variable {bottom : List Frame} {d : Nat}

theorem under_give (bottom : List Frame) (j : Json) (stack : List Frame) :
    (give j stack).under bottom = give j (stack ++ bottom) := by
  cases stack with
  | nil => rfl
  | cons f stack => cases f <;> rfl

theorem Begins.under {stack : List Frame} {t : Token} {r : Reader} (h : Begins stack t r) (hr : r.Fits d)
    (hd : bottom.length + d ≤ depthLimit) : Begins (stack ++ bottom) t (r.under bottom) := by
  cases h with
  | arr =>
    refine .arr ?_
    have := hr.1
    rw [List.length_append]
    omega
  | obj =>
    refine .obj ?_
    have := hr.1
    rw [List.length_append]
    omega
  | scalar hj => exact under_give bottom _ stack ▸ .scalar hj

/-- A step does not depend on what is open below, if there is room for it. -/
theorem Steps.under {r r' : Reader} {t : Token} (h : Steps r t r') (hr : r'.Fits d)
    (hd : bottom.length + d ≤ depthLimit) : Steps (r.under bottom) t (r'.under bottom) := by
  cases h with
  | value h => exact .value (h.under hr hd)
  | firstItem h => exact .firstItem (h.under hr hd)
  | emptyArr stack => exact under_give bottom _ stack ▸ .emptyArr _
  | endArr items stack => exact under_give bottom _ stack ▸ .endArr _ _
  | emptyObj stack => exact under_give bottom _ stack ▸ .emptyObj _
  | endObj members stack => exact under_give bottom _ stack ▸ .endObj _ _
  | nextItem => exact .nextItem _ _
  | firstKey => exact .firstKey _ _
  | nextKey => exact .nextKey _ _ _
  | colon => exact .colon _ _ _
  | nextMember => exact .nextMember _ _

theorem fits_of_run : ∀ {ts : List Token} {r r' : Reader}, run r ts = some r' → r'.Fits d → r.Fits d
  | [], r, r', h, hr => Option.some.inj h ▸ hr
  | t :: ts, r, r', h, hr => by
    obtain ⟨r₁, h₁, h⟩ := Option.bind_eq_some_iff.1 h
    exact (step_eq_some_iff.1 h₁).fits (fits_of_run h hr)

theorem run_under : ∀ {ts : List Token} {r r' : Reader}, run r ts = some r' → r'.Fits d →
    bottom.length + d ≤ depthLimit → run (r.under bottom) ts = some (r'.under bottom)
  | [], r, r', h, _, _ => by rw [← Option.some.inj h]; rfl
  | t :: ts, r, r', h, hr, hd => by
    obtain ⟨r₁, h₁, h⟩ := Option.bind_eq_some_iff.1 h
    have hstep : step (r.under bottom) t = some (r₁.under bottom) :=
      step_eq_some_iff.2 ((step_eq_some_iff.1 h₁).under (fits_of_run h hr) hd)
    rw [run_cons, hstep, Option.bind_some, run_under h hr hd]

/-- **A value is read on top of open arrays and objects**, if they leave room for it. -/
theorem run_value {ts : List Token} {j : Json} (h : ofTokens? ts = some j)
    (hd : bottom.length + j.depth ≤ depthLimit) : run (.value bottom) ts = some (give j bottom) := by
  unfold ofTokens? at h
  split at h
  · rename_i j' hrun
    rw [Option.some.inj h] at hrun
    exact run_under hrun (Nat.le_refl _) hd
  · cases h

theorem run_firstItem {stack : List Frame} {j : Json} : ∀ {ts : List Token},
    run (.value (.arr [] :: stack)) ts = some (give j (.arr [] :: stack)) →
      run (.firstItem stack) ts = some (.afterItem [j] stack)
  | [], h => by cases h
  | t :: ts, h => by
    obtain ⟨r, hr, h⟩ := Option.bind_eq_some_iff.1 h
    have hstep : step (.firstItem stack) t = some r := step_eq_some_iff.2 (.firstItem (begin_eq_some_iff.1 hr))
    rw [run_cons, hstep]
    exact h

end Reader

end LintGloss.Json
