import LintGloss.Yaml.Document
/-!
# Values of documents

What holds of every scalar that a document can write, and of a value if it holds of the parts of it, holds of the value
of every document (`Hereditary.of_parse?`).  A mapping can be taken to have no key twice.  The integers of a document,
for one, are those of 64 bits (`sized_of_parse?`).
-/

namespace LintGloss.Yaml

/-- The integers of 64 bits, with a sign or without. -/
def IsWord (n : Int) : Prop := -(Nat.pow 2 63 : Nat) ≤ n ∧ n < (Nat.pow 2 64 : Nat)

/-- A property of values that goes from the parts of a value to the value. -/
structure Hereditary (P : Yaml → Prop) : Prop where
  null : P .null
  bool (b : Bool) : P (.bool b)
  int {n : Int} (hn : IsWord n) : P (.int n)
  real (x : Binary64) : P (.real x)
  str (s : String) : P (.str s)
  seq {items : List Yaml} (hitems : ∀ v ∈ items, P v) : P (.seq items)
  map {entries : List (Yaml × Yaml)} (hdistinct : entries.Pairwise fun a b => a.1.same b.1 = false)
    (hkeys : ∀ e ∈ entries, P e.1) (hvalues : ∀ e ∈ entries, P e.2) : P (.map entries)
  tagged (tag : String) {v : Yaml} (hv : P v) : P (.tagged tag v)

/-! ## Computations that follow aliases -/

/-- Whatever a computation gives has the property. -/
def Following.Yields {α : Type} (m : Following α) (P : α → Prop) : Prop :=
  ∀ ⦃k l : Nat⦄ ⦃a : α⦄, m.run k = some (a, l) → P a

namespace Following

variable {α β : Type} {P : α → Prop} {Q : β → Prop}

theorem yields_pure {a : α} (ha : P a) : Yields (pure a) P := by
  intro k l b h
  rw [StateT.run_pure] at h
  obtain ⟨rfl, -⟩ := Prod.mk.inj (Option.some.inj h)
  exact ha

theorem yields_failure : Yields (failure : Following α) P := by
  intro k l a h
  cases h

theorem yields_lift {x : Option α} (hx : ∀ a, x = some a → P a) : Yields (liftM x) P := by
  intro k l a h
  obtain ⟨b, hb, h⟩ := Option.bind_eq_some_iff.1 h
  obtain ⟨rfl, -⟩ := Prod.mk.inj (Option.some.inj h)
  exact hx b hb

theorem yields_bind {m : Following α} {f : α → Following β} (hm : Yields m P) (hf : ∀ a, P a → Yields (f a) Q) :
    Yields (m >>= f) Q := by
  intro k l b h
  rw [StateT.run_bind] at h
  obtain ⟨⟨a, k'⟩, ha, hb⟩ := Option.bind_eq_some_iff.1 h
  exact hf a (hm ha) hb

theorem yields_true (m : Following α) : Yields m fun _ => True := fun _ _ _ _ => trivial

theorem yields_mapM {f : α → Following β} (hf : ∀ a, Yields (f a) Q) : ∀ l : List α,
    Yields (l.mapM f) fun bs => ∀ b ∈ bs, Q b
  | [] => yields_pure fun b hb => absurd hb List.not_mem_nil
  | a :: l => by
    rw [List.mapM_cons]
    refine yields_bind (hf a) fun b hb => yields_bind (yields_mapM hf l) fun bs hbs => yields_pure ?_
    exact List.forall_mem_cons.2 ⟨hb, hbs⟩

theorem yields_foldlM {f : β → α → Following β} (hf : ∀ b a, Q b → Yields (f b a) Q) : ∀ (l : List α) {b : β},
    Q b → Yields (l.foldlM f b) Q
  | [], _, hb => yields_pure hb
  | a :: l, b, hb => by
    rw [List.foldlM_cons]
    exact yields_bind (hf b a hb) fun b' hb' => yields_foldlM hf l hb'

end Following

/-! ## Scalars -/

theorem isWord_of_size {s : List Char} {n : Int} (h : Scalar.size s = .fits n) : IsWord n := by
  unfold Scalar.size at h
  unfold IsWord
  have hpow : 0 < Nat.pow 2 64 := Nat.pow_pos (by decide)
  split at h
  · rename_i m _
    by_cases hsmall : m < Nat.pow 2 64
    · rw [if_pos hsmall] at h
      cases h
      omega
    · rw [if_neg hsmall] at h
      split at h <;> cases h
  · rename_i m _ _
    by_cases hsmall : m ≤ Nat.pow 2 63
    · rw [if_pos hsmall] at h
      cases h
      omega
    · rw [if_neg hsmall] at h
      split at h <;> cases h
  · cases h

namespace Hereditary

variable {P : Yaml → Prop} (hP : Hereditary P)
include hP

theorem underTag {v : Yaml} (hv : P v) : ∀ tag : Option Tag, P (underTag tag v)
  | none => hv
  | some (.global _) => hv
  | some (.named name) => hP.tagged name hv

theorem of_resolve? {s : List Char} {v : Yaml} (h : Scalar.resolve? s = some v) : P v := by
  unfold Scalar.resolve? at h
  split at h
  · exact Option.some.inj h ▸ hP.null
  · split at h
    · exact Option.some.inj h ▸ hP.bool _
    · split at h
      · rename_i hsize
        exact Option.some.inj h ▸ hP.int (isWord_of_size hsize)
      · cases h
      · split at h
        · exact Option.some.inj h ▸ hP.real _
        · exact Option.some.inj h ▸ hP.str _

theorem of_resolveTagged? {tag s : List Char} {v : Yaml} (h : Scalar.resolveTagged? tag s = some v) : P v := by
  unfold Scalar.resolveTagged? at h
  split at h
  · obtain ⟨b, -, rfl⟩ := Option.map_eq_some_iff.1 h
    exact hP.bool b
  · split at h
    · split at h
      · rename_i hsize
        exact Option.some.inj h ▸ hP.int (isWord_of_size hsize)
      · cases h
    · split at h
      · obtain ⟨x, -, rfl⟩ := Option.map_eq_some_iff.1 h
        exact hP.real x
      · split at h
        · obtain ⟨-, h⟩ := Option.ite_none_right_eq_some.1 h
          exact Option.some.inj h ▸ hP.null
        · exact Option.some.inj h ▸ hP.str _

theorem of_scalarValue? {tag : Option Tag} {text : List Char} {plain : Bool} {v : Yaml}
    (h : scalarValue? tag text plain = some v) : P v := by
  unfold scalarValue? at h
  split at h
  · exact hP.of_resolveTagged? h
  · obtain ⟨w, hw, rfl⟩ := Option.map_eq_some_iff.1 h
    refine hP.underTag ?_ _
    split at hw
    · exact hP.of_resolve? hw
    · exact Option.some.inj hw ▸ hP.str _

end Hereditary

/-! ## Nodes -/

/-- What the entries of a mapping are while it is read: no key stands twice, and all parts have the property. -/
structure EntriesHave (P : Yaml → Prop) (entries : List (Yaml × Yaml)) : Prop where
  distinct : entries.Pairwise fun a b => a.1.same b.1 = false
  keys : ∀ e ∈ entries, P e.1
  values : ∀ e ∈ entries, P e.2

theorem EntriesHave.nil {P : Yaml → Prop} : EntriesHave P [] := ⟨.nil, List.forall_mem_nil _, List.forall_mem_nil _⟩

theorem EntriesHave.insertNew {P : Yaml → Prop} {entries entries' : List (Yaml × Yaml)} {e : Yaml × Yaml}
    (hentries : EntriesHave P entries) (hkey : P e.1) (hvalue : P e.2) (h : insertNew? entries e = some entries') :
    EntriesHave P entries' := by
  obtain ⟨hnew, h⟩ := Option.ite_none_left_eq_some.1 h
  rw [← Option.some.inj h]
  refine ⟨?_, ?_, ?_⟩
  · refine List.pairwise_append.2 ⟨hentries.distinct, List.pairwise_singleton _ _, fun old hold e' he' => ?_⟩
    rw [List.mem_singleton.1 he']
    exact Bool.eq_false_iff.2 fun hsame => hnew (List.any_eq_true.2 ⟨old, hold, hsame⟩)
  · exact List.forall_mem_append.2 ⟨hentries.keys, List.forall_mem_singleton.2 hkey⟩
  · exact List.forall_mem_append.2 ⟨hentries.values, List.forall_mem_singleton.2 hvalue⟩

namespace Hereditary

variable {P : Yaml → Prop} (hP : Hereditary P)
include hP

open Following in
theorem yields_value (anchors : Anchors) : ∀ (depth : Nat) (n : Node Nat), Yields (value anchors depth n) P
  | 0, n => by
    rw [value]
    refine yields_bind (yields_true _) fun m _ => ?_
    cases m with
    | scalar anchor tag text plain => exact yields_lift fun v => hP.of_scalarValue?
    | _ => exact yields_failure
  | depth + 1, n => by
    rw [value]
    refine yields_bind (yields_true _) fun m _ => ?_
    cases m with
    | scalar anchor tag text plain => exact yields_lift fun v => hP.of_scalarValue?
    | seq anchor tag items =>
      refine yields_bind (yields_mapM (yields_value anchors depth) items) fun vs hvs => yields_pure ?_
      exact hP.underTag (hP.seq hvs) tag
    | map anchor tag entries =>
      -- what the fold keeps is said of all the entries so far
      refine yields_bind (yields_foldlM (Q := EntriesHave P) ?_ entries .nil) ?_
      · intro done e hdone
        refine yields_bind (yields_value anchors depth e.1) fun k hk => ?_
        refine yields_bind (yields_value anchors depth e.2) fun v hv => ?_
        exact yields_lift fun done' => hdone.insertNew hk hv
      · intro done hdone
        have hmap : P (.map done) := hP.map hdone.distinct hdone.keys hdone.values
        exact yields_pure (hP.underTag hmap tag)
    | _ => exact yields_failure

/-- **What goes from parts to values holds of the value of a document.** -/
theorem of_parse? {s : List Char} {v : Yaml} (h : parse? s = some v) : P v := by
  obtain ⟨ts, -, h⟩ := Option.bind_eq_some_iff.1 h
  cases ts with
  | nil => exact Option.some.inj h ▸ hP.null
  | cons t ts =>
    obtain ⟨n, -, h⟩ := Option.bind_eq_some_iff.1 h
    obtain ⟨⟨m, slots⟩, -, h⟩ := Option.bind_eq_some_iff.1 h
    obtain ⟨⟨w, followed⟩, hw, h⟩ := Option.map_eq_some_iff.1 h
    exact h ▸ hP.yields_value _ _ _ hw

end Hereditary

/-! ## Integers -/

/-- Every integer in the value has 64 bits at most. -/
inductive Sized : Yaml → Prop
  | null : Sized .null
  | bool (b : Bool) : Sized (.bool b)
  | int {n : Int} (hn : IsWord n) : Sized (.int n)
  | real (x : Binary64) : Sized (.real x)
  | str (s : String) : Sized (.str s)
  | seq {items : List Yaml} (hitems : ∀ v ∈ items, Sized v) : Sized (.seq items)
  | map {entries : List (Yaml × Yaml)} (hkeys : ∀ e ∈ entries, Sized e.1) (hvalues : ∀ e ∈ entries, Sized e.2) :
    Sized (.map entries)
  | tagged (tag : String) {v : Yaml} (hv : Sized v) : Sized (.tagged tag v)

theorem sized_of_parse? {s : List Char} {v : Yaml} (h : parse? s = some v) : v.Sized := by
  have hsized : Hereditary Sized :=
    { null := .null, bool := .bool, int := .int, real := .real, str := .str, seq := .seq, tagged := .tagged,
      map := fun _ hkeys hvalues => .map hkeys hvalues }
  exact hsized.of_parse? h

end LintGloss.Yaml
