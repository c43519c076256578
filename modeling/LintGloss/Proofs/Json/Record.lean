import LintGloss.Json.Record
import LintGloss.Proofs.Keyed
import Mathlib.Data.List.Nodup
/-!
# Objects as records

An object is read by the keys of its members: where they stand, and what else is in it, makes no difference
(`IsRecord.member?`).
-/

namespace LintGloss

/-- A value counts for a key if all entries with the key have it. -/
theorem lastOf?_eq_some_of_forall {α : Type} {key : String} {a : α} {xs : List (String × α)} (hmem : (key, a) ∈ xs)
    (hall : ∀ x ∈ xs, x.1 = key → x.2 = a) : lastOf? key xs = some a := by
  cases hlast : lastOf? key xs with
  | none => exact absurd rfl (lastOf?_eq_none_iff.1 hlast _ hmem)
  | some b =>
    obtain ⟨before, after, rfl, -⟩ := lastOf?_eq_some_iff.1 hlast
    have hb : b = a := hall (key, b) (by simp) rfl
    rw [hb]

namespace Json

/-! ## Fields -/

theorem optional?_some {α : Type} (read : Option Json → Option α) {j : Json} (hj : j ≠ .null) :
    optional? read (some j) = (read (some j)).map some := by
  cases j with
  | null => exact absurd rfl hj
  | bool | int | real | str | arr | obj => rfl

/-- A field that can be left out or be null. -/
inductive Given (α : Type)
  | missing
  | null
  | value (a : α)
  deriving DecidableEq, Repr

namespace Given

variable {α β : Type}

def toOption : Given α → Option α
  | value a => some a
  | _ => none

/-- The member that writes a field, unless it is left out. -/
def members (name : String) (write : α → Json) : Given α → List (String × Json)
  | missing => []
  | null => [(name, .null)]
  | value a => [(name, write a)]

theorem lastOf?_members_of_ne {name key : String} (h : name ≠ key) (write : α → Json) (g : Given α) :
    lastOf? key (g.members name write) = none := by
  cases g <;> simp [members, lastOf?, h]

theorem optional?_members {read : Option Json → Option β} {write : α → Json} {value : α → β} (name : String)
    {g : Given α} (hread : ∀ a, g = .value a → write a ≠ .null ∧ read (some (write a)) = some (value a)) :
    optional? read (lastOf? name (g.members name write)) = some (g.toOption.map value) := by
  cases g with
  | missing => rfl
  | null => simp [members, lastOf?, optional?, toOption]
  | value a =>
    obtain ⟨hnull, hread⟩ := hread a rfl
    have hlast : lastOf? name ((Given.value a).members name write) = some (write a) := by simp [members, lastOf?]
    rw [hlast, optional?_some read hnull, hread]
    rfl

end Given

/-! ## Records -/

/-- Whether a value is an object with some fields of a shape, in any order and among other members. -/
def IsRecord (shape : List Field) (fields : List (String × Json)) (j : Json) : Prop :=
  ∃ members others, j = .obj members ∧ members.Perm (fields ++ others) ∧ ∀ m ∈ others, ∀ f ∈ shape, f.name ≠ m.1

theorem IsRecord.ne_null {shape : List Field} {fields : List (String × Json)} {j : Json}
    (h : IsRecord shape fields j) : j ≠ .null := by
  obtain ⟨members, others, rfl, -⟩ := h
  exact fun h => by cases h

theorem isRecord_obj (shape : List Field) (fields : List (String × Json)) : IsRecord shape fields (.obj fields) :=
  ⟨fields, [], rfl, by rw [List.append_nil], List.forall_mem_nil _⟩

/-- **A field is found wherever it stands**, and whatever else an object holds. -/
theorem IsRecord.member? {shape : List Field} {fields : List (String × Json)} {j : Json} (h : IsRecord shape fields j)
    (hfields : (fields.map Prod.fst).Nodup) : ∀ f ∈ shape, j.member? f.name = lastOf? f.name fields := by
  obtain ⟨members, others, rfl, hperm, hothers⟩ := h
  intro f hf
  have hmem : ∀ m, m.1 = f.name → (m ∈ members ↔ m ∈ fields) := by
    intro m hm
    rw [hperm.mem_iff, List.mem_append]
    exact or_iff_left fun hm' => hothers m hm' f hf hm.symm
  rw [Json.member?]
  cases hlast : lastOf? f.name fields with
  | none =>
    refine lastOf?_eq_none_iff.2 fun m hm hname => ?_
    exact lastOf?_eq_none_iff.1 hlast m ((hmem m hname).1 hm) hname
  | some v =>
    obtain ⟨before, after, hsplit, -⟩ := lastOf?_eq_some_iff.1 hlast
    have hv : (f.name, v) ∈ fields := by simp [hsplit]
    refine lastOf?_eq_some_of_forall ((hmem _ rfl).2 hv) fun m hm hname => ?_
    rw [List.inj_on_of_nodup_map hfields ((hmem m hname).1 hm) hv hname]

theorem IsRecord.record? {shape : List Field} {fields : List (String × Json)} {j : Json}
    (h : IsRecord shape fields j) : j.record? shape = some fun name => j.member? name := by
  obtain ⟨members, others, rfl, -⟩ := h
  rfl

end Json

end LintGloss
