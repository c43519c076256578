import LintGloss.Json.Basic
import LintGloss.Proofs.Keyed
/-!
# Members of sorted values

Sorting the members of all objects changes no look-up: the member of a key is the one from before, itself sorted
(`member?_sortKeys`).  Of two members with one key the later stays the later.
-/

namespace LintGloss.Json

/-! ## Values from the inside out -/

/-- What holds of a value if it holds of all its items or members holds of every value. -/
@[elab_as_elim]
theorem induction {motive : Json → Prop} (null : motive .null) (bool : ∀ b, motive (.bool b))
    (int : ∀ n, motive (.int n)) (real : ∀ d, motive (.real d)) (str : ∀ s, motive (.str s))
    (arr : ∀ items, (∀ j ∈ items, motive j) → motive (.arr items))
    (obj : ∀ members, (∀ m ∈ members, motive m.2) → motive (.obj members)) (j : Json) : motive j :=
  @Json.rec motive (fun items => ∀ j ∈ items, motive j) (fun members => ∀ m ∈ members, motive m.2)
    (fun m => motive m.2) null bool int real str arr obj
    (List.forall_mem_nil _) (fun _ _ hj hitems => List.forall_mem_cons.2 ⟨hj, hitems⟩)
    (List.forall_mem_nil _) (fun _ _ hm hmembers => List.forall_mem_cons.2 ⟨hm, hmembers⟩) (fun _ _ hj => hj) j

/-! ## Sorted members -/

/-- The keys of the members rise. -/
def Rising (ms : List (String × Json)) : Prop := ms.Pairwise fun a b => a.1 ≤ b.1

theorem mem_insertMember {m x : String × Json} : ∀ {ms : List (String × Json)},
    x ∈ insertMember m ms ↔ x = m ∨ x ∈ ms
  | [] => by simp [insertMember]
  | y :: ms => by
    rw [insertMember]
    split
    · rw [List.mem_cons]
    · rw [List.mem_cons, mem_insertMember, List.mem_cons]
      exact or_left_comm

theorem rising_insertMember (m : String × Json) : ∀ {ms : List (String × Json)},
    Rising ms → Rising (insertMember m ms)
  | [], _ => List.pairwise_singleton _ _
  | y :: ms, h => by
    obtain ⟨hy, hms⟩ := List.pairwise_cons.1 h
    rw [insertMember]
    split
    · rename_i hlt
      refine List.pairwise_cons.2 ⟨fun x hx => ?_, h⟩
      rcases List.mem_cons.1 hx with rfl | hx
      · exact Std.le_of_lt hlt
      · exact String.le_trans (Std.le_of_lt hlt) (hy x hx)
    · rename_i hge
      refine List.pairwise_cons.2 ⟨fun x hx => ?_, rising_insertMember m hms⟩
      rcases mem_insertMember.1 hx with rfl | hx
      · exact String.not_lt.1 hge
      · exact hy x hx

/-- The inserted member is the last one with its key. -/
theorem lastOf?_insertMember (key : String) (m : String × Json) : ∀ {ms : List (String × Json)}, Rising ms →
    lastOf? key (insertMember m ms) = if m.1 = key then some m.2 else lastOf? key ms
  | [], _ => by simp [insertMember, lastOf?]
  | y :: ms, h => by
    obtain ⟨hy, hms⟩ := List.pairwise_cons.1 h
    rw [insertMember]
    split
    · rename_i hlt
      rw [lastOf?]
      by_cases hk : m.1 = key
      · -- all keys from here on are greater
        have hnone : lastOf? key (y :: ms) = none := by
          rw [lastOf?_eq_none_iff]
          intro x hx hxk
          rcases List.mem_cons.1 hx with rfl | hx
          · exact String.ne_of_lt hlt (hk.trans hxk.symm)
          · exact String.not_lt.2 (hy x hx) (by rw [hxk, ← hk]; exact hlt)
        simp [hnone, hk]
      · cases lastOf? key (y :: ms) <;> simp [hk]
    · rw [lastOf?, lastOf?, lastOf?_insertMember key m hms]
      by_cases hk : m.1 = key <;> simp [hk]

/-- One insertion after the other, a later member of a key takes the place of an earlier one. -/
theorem lastOf?_foldl_insertMember (key : String) : ∀ (ms sorted : List (String × Json)), Rising sorted →
    lastOf? key (ms.foldl (fun sorted m => insertMember m sorted) sorted) = (lastOf? key ms <|> lastOf? key sorted)
  | [], sorted, _ => by simp
  | (k, j) :: ms, sorted, h => by
    rw [List.foldl_cons, lastOf?_foldl_insertMember key ms _ (rising_insertMember _ h), lastOf?_insertMember key _ h,
      lastOf?]
    cases lastOf? key ms with
    | some a => rfl
    | none => by_cases hk : k = key <;> simp [hk]

theorem mem_foldl_insertMember {x : String × Json} : ∀ {ms sorted : List (String × Json)},
    x ∈ ms.foldl (fun sorted m => insertMember m sorted) sorted ↔ x ∈ ms ∨ x ∈ sorted
  | [], sorted => by simp
  | m :: ms, sorted => by
    rw [List.foldl_cons, mem_foldl_insertMember, mem_insertMember, List.mem_cons]
    exact or_left_comm.trans or_assoc.symm

theorem mem_sortMembers {x : String × Json} {ms : List (String × Json)} : x ∈ sortMembers ms ↔ x ∈ ms := by
  rw [sortMembers, mem_foldl_insertMember]
  simp

theorem rising_foldl_insertMember : ∀ (ms : List (String × Json)) {sorted : List (String × Json)}, Rising sorted →
    Rising (ms.foldl (fun sorted m => insertMember m sorted) sorted)
  | [], _, h => h
  | m :: ms, _, h => rising_foldl_insertMember ms (rising_insertMember m h)

theorem rising_sortMembers (ms : List (String × Json)) : Rising (sortMembers ms) :=
  rising_foldl_insertMember ms List.Pairwise.nil

/-- A member with the greatest key goes to the end. -/
theorem insertMember_of_le {m : String × Json} : ∀ {ms : List (String × Json)}, (∀ x ∈ ms, x.1 ≤ m.1) →
    insertMember m ms = ms ++ [m]
  | [], _ => rfl
  | y :: ms, h => by
    obtain ⟨hy, hms⟩ := List.forall_mem_cons.1 h
    rw [insertMember, if_neg (String.not_lt.2 hy), insertMember_of_le hms, List.cons_append]

theorem foldl_insertMember_of_rising : ∀ {ms sorted : List (String × Json)}, Rising (sorted ++ ms) →
    ms.foldl (fun sorted m => insertMember m sorted) sorted = sorted ++ ms
  | [], sorted, _ => by simp
  | m :: ms, sorted, h => by
    have hle : ∀ x ∈ sorted, x.1 ≤ m.1 := fun x hx => (List.pairwise_append.1 h).2.2 x hx m List.mem_cons_self
    have hmove : sorted ++ m :: ms = (sorted ++ [m]) ++ ms := by simp
    rw [List.foldl_cons, insertMember_of_le hle, foldl_insertMember_of_rising (hmove ▸ h), hmove]

theorem sortMembers_of_rising {ms : List (String × Json)} (h : Rising ms) : sortMembers ms = ms :=
  @foldl_insertMember_of_rising ms [] h

theorem lastOf?_sortMembers (key : String) (ms : List (String × Json)) :
    lastOf? key (sortMembers ms) = lastOf? key ms := by
  rw [sortMembers, lastOf?_foldl_insertMember key ms [] List.Pairwise.nil]
  simp

theorem sortItems_eq_map : ∀ items : List Json, sortItems items = items.map sortKeys
  | [] => by rw [sortItems, List.map_nil]
  | j :: items => by rw [sortItems, sortItems_eq_map items, List.map_cons]

theorem sortValues_eq_map : ∀ ms : List (String × Json), sortValues ms = ms.map fun m => (m.1, sortKeys m.2)
  | [] => by rw [sortValues, List.map_nil]
  | (k, j) :: ms => by rw [sortValues, sortValues_eq_map ms, List.map_cons]

/-- **Sorting changes no look-up.** -/
@[simp] theorem member?_sortKeys (key : String) (j : Json) :
    (sortKeys j).member? key = (j.member? key).map sortKeys := by
  cases j with
  | obj ms => rw [sortKeys, member?, member?, lastOf?_sortMembers, sortValues_eq_map, lastOf?_map]
  | arr items => rw [sortKeys, member?, member?, Option.map_none] <;> intros <;> contradiction
  | null | bool | int | real | str => rw [sortKeys, member?, Option.map_none] <;> intros <;> contradiction

/-- Sorted members stay as they are. -/
theorem sortKeys_sortKeys (j : Json) : j.sortKeys.sortKeys = j.sortKeys := by
  induction j using Json.induction with
  | null | bool | int | real | str => rfl
  | arr items ih =>
    rw [sortKeys, sortItems_eq_map, sortKeys, sortItems_eq_map, List.map_map]
    exact congrArg Json.arr (List.map_congr_left ih)
  | obj members ih =>
    have hsame : ∀ m ∈ sortMembers (members.map fun m => (m.1, m.2.sortKeys)), (m.1, m.2.sortKeys) = m := by
      intro m hm
      obtain ⟨m, hmem, rfl⟩ := List.mem_map.1 (mem_sortMembers.1 hm)
      exact Prod.ext rfl (ih m hmem)
    rw [sortKeys, sortValues_eq_map, sortKeys, sortValues_eq_map, List.map_congr_left hsame, List.map_id',
      sortMembers_of_rising (rising_sortMembers _)]

end LintGloss.Json
