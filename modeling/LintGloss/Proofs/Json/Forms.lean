import LintGloss.Proofs.Json.Record
/-!
# Both forms of a record

An object and an array are records in the same way, in that each gives values for the fields (`gives_iff`).  A reading
that goes by these values cannot tell one form from the other (`readsRecords_of_iff`).
-/

namespace LintGloss.Json

/-! ## Values that can be missing -/

/-- What stands for a field that can be left out or be null. -/
inductive Given.Fits {α : Type} (R : α → Json → Prop) : Given α → Option Json → Prop
  | missing : Fits R .missing none
  | null : Fits R .null (some .null)
  | value {a : α} {j : Json} (h : R a j) : Fits R (.value a) (some j)

theorem text?_eq_some_iff {x : Option Json} {s : String} : text? x = some s ↔ x = some (.str s) := by
  unfold text?
  split
  · simp
  · rename_i hother
    simpa using fun h => hother s h

/-- **A value that is optional** is missing, null or what can be read. -/
theorem optional?_eq_some_iff {α β : Type} {read : Option Json → Option β} {R : α → Json → Prop} {value : α → β}
    (hread : ∀ x b, read x = some b ↔ ∃ a j, x = some j ∧ R a j ∧ b = value a) (hnull : ∀ a, ¬ R a .null)
    {x : Option Json} {o : Option β} :
    optional? read x = some o ↔ ∃ g : Given α, g.Fits R x ∧ o = g.toOption.map value := by
  constructor
  · intro h
    cases x with
    | none => exact ⟨.missing, .missing, (Option.some.inj h).symm⟩
    | some j =>
      by_cases hj : j = .null
      · subst hj
        exact ⟨.null, .null, (Option.some.inj h).symm⟩
      · rw [optional?_some read hj] at h
        obtain ⟨b, hb, rfl⟩ := Option.map_eq_some_iff.1 h
        obtain ⟨a, k, hk, ha, rfl⟩ := (hread _ _).1 hb
        obtain rfl := Option.some.inj hk
        exact ⟨.value a, .value ha, rfl⟩
  · rintro ⟨g, hg, rfl⟩
    cases hg with
    | missing | null => rfl
    | @value a j h =>
      have hj : j ≠ .null := by
        rintro rfl
        exact hnull a h
      rw [optional?_some read hj, (hread _ _).2 ⟨a, j, rfl, h, rfl⟩]
      rfl

/-! ## What a record gives -/

/-- The values that a record gives for its fields, in their order.  An object gives the last member of each name, and an
array its items; the fields behind them have to be such that can be left off. -/
inductive Gives (shape : List Field) : Json → List (Option Json) → Prop
  | obj (members : List (String × Json)) : Gives shape (.obj members) (shape.map fun f => lastOf? f.name members)
  | arr {taken left : List Field} {items : List Json} (hshape : shape = taken ++ left)
    (hitems : items.length = taken.length) (hleft : ∀ f ∈ left, f.omittable = true) :
    Gives shape (.arr items) (items.map some ++ left.map fun _ => none)

theorem exists_split_of_positional? : ∀ {shape : List Field} {items : List Json} {fields : List (String × Json)},
    positional? shape items = some fields → ∃ taken left, shape = taken ++ left ∧ items.length = taken.length ∧
      (∀ f ∈ left, f.omittable = true) ∧ fields = (taken.map (·.name)).zip items
  | [], [], fields, h => ⟨[], [], rfl, rfl, List.forall_mem_nil _, (Option.some.inj h).symm⟩
  | [], _ :: _, _, h => by cases h
  | f :: fs, [], fields, h => by
    obtain ⟨hall, h⟩ := Option.ite_none_right_eq_some.1 h
    exact ⟨[], f :: fs, rfl, rfl, List.all_eq_true.1 hall, (Option.some.inj h).symm⟩
  | f :: fs, j :: js, fields, h => by
    obtain ⟨rest, hrest, rfl⟩ := Option.map_eq_some_iff.1 h
    obtain ⟨taken, left, rfl, hitems, hleft, rfl⟩ := exists_split_of_positional? hrest
    exact ⟨f :: taken, left, rfl, by simp [hitems], hleft, rfl⟩

theorem positional?_append {left : List Field} (hleft : ∀ f ∈ left, f.omittable = true) :
    ∀ {taken : List Field} {items : List Json}, items.length = taken.length →
      positional? (taken ++ left) items = some ((taken.map (·.name)).zip items)
  | [], [], _ => by
    cases left with
    | nil => rfl
    | cons f fs => exact if_pos (List.all_eq_true.2 hleft)
  | f :: taken, j :: items, h => by
    rw [List.cons_append, positional?, positional?_append hleft (Nat.succ.inj h)]
    rfl

theorem map_lastOf?_zip : ∀ {names : List String} {items : List Json}, names.Nodup → items.length = names.length →
    (names.map fun name => lastOf? name (names.zip items)) = items.map some
  | [], [], _, _ => rfl
  | name :: names, j :: items, hnodup, h => by
    obtain ⟨hname, hnames⟩ := List.nodup_cons.1 hnodup
    have hbehind : lastOf? name (names.zip items) = none :=
      lastOf?_eq_none_iff.2 fun x hx heq => hname (heq ▸ (List.of_mem_zip hx).1)
    have hrest : (names.map fun n => lastOf? n ((name, j) :: names.zip items)) = items.map some := by
      rw [← map_lastOf?_zip hnames (Nat.succ.inj h)]
      refine List.map_congr_left fun n hn => lastOf?_cons_of_ne ?_ _ _
      rintro rfl
      exact hname hn
    rw [List.zip_cons_cons, List.map_cons, hrest, lastOf?, hbehind]
    simp

theorem map_lastOf?_zip_append {taken left : List Field} {items : List Json}
    (hnodup : ((taken ++ left).map (·.name)).Nodup) (hitems : items.length = taken.length) :
    ((taken ++ left).map fun f => lastOf? f.name ((taken.map (·.name)).zip items)) =
      items.map some ++ left.map fun _ => none := by
  rw [List.map_append] at hnodup ⊢
  obtain ⟨htaken, -, hdisjoint⟩ := List.nodup_append.1 hnodup
  congr 1
  · rw [← map_lastOf?_zip htaken (by simpa using hitems), List.map_map]
    rfl
  · refine List.map_congr_left fun f hf => lastOf?_eq_none_iff.2 fun x hx => ?_
    exact hdisjoint _ (List.of_mem_zip hx).1 _ (List.mem_map_of_mem hf)

/-- **What a record gives is what is read off it**, if no two fields have one name. -/
theorem gives_iff {shape : List Field} (hnodup : (shape.map (·.name)).Nodup) {j : Json} {vs : List (Option Json)} :
    j.Gives shape vs ↔ ∃ get, j.record? shape = some get ∧ vs = shape.map fun f => get f.name := by
  constructor
  · rintro (⟨members⟩ | ⟨rfl, hitems, hleft⟩)
    · exact ⟨_, rfl, rfl⟩
    · refine ⟨_, by rw [record?, positional?_append hleft hitems]; rfl, ?_⟩
      exact (map_lastOf?_zip_append hnodup hitems).symm
  · rintro ⟨get, hget, rfl⟩
    cases j with
    | obj members =>
      obtain rfl := Option.some.inj hget
      exact .obj members
    | arr items =>
      obtain ⟨fields, hfields, rfl⟩ := Option.map_eq_some_iff.1 hget
      obtain ⟨taken, left, rfl, hitems, hleft, rfl⟩ := exists_split_of_positional? hfields
      rw [map_lastOf?_zip_append hnodup hitems]
      exact .arr rfl hitems hleft
    | null | bool | int | real | str => cases hget

theorem Gives.length {shape : List Field} {items : List Json} {vs : List (Option Json)}
    (h : (Json.arr items).Gives shape vs) :
    items.length ≤ shape.length ∧
      ∀ (k : Nat) (f : Field), shape[k]? = some f → f.omittable = false → k < items.length := by
  cases h with
  | arr hshape hitems hleft =>
    subst hshape
    refine ⟨by simp [hitems], fun k f hk hf => ?_⟩
    by_contra hbehind
    rw [List.getElem?_append_right (by omega)] at hk
    rw [hleft f (List.mem_of_getElem? hk)] at hf
    cases hf

theorem Gives.zip {shape : List Field} {items : List Json} {vs : List (Option Json)}
    (h : (Json.arr items).Gives shape vs) (hnodup : (shape.map (·.name)).Nodup) :
    (Json.obj ((shape.map (·.name)).zip items)).Gives shape vs := by
  cases h with
  | @arr taken left items hshape hitems hleft =>
    subst hshape
    have hzip : ((taken ++ left).map (·.name)).zip items = (taken.map (·.name)).zip items := by
      have hlength : (taken.map (·.name)).length = items.length := by simp [hitems]
      have happ : (taken.map (·.name) ++ left.map (·.name)).zip (items ++ []) = _ := List.zip_append hlength
      rwa [List.append_nil, List.zip_nil_right, List.append_nil, ← List.map_append] at happ
    rw [hzip, ← map_lastOf?_zip_append hnodup hitems]
    exact .obj _

theorem Gives.of_arr {shape : List Field} {items : List Json} {vs : List (Option Json)} {members : List (String × Json)}
    (h : (Json.arr items).Gives shape vs)
    (hsame : ∀ (k : Nat) (f : Field), shape[k]? = some f → lastOf? f.name members = items[k]?) :
    (Json.obj members).Gives shape vs := by
  obtain ⟨hle, -⟩ := h.length
  cases h with
  | @arr taken left items hshape hitems hleft =>
    have hvs : (shape.map fun f => lastOf? f.name members) = items.map some ++ left.map fun _ => none := by
      refine List.ext_getElem? fun k => ?_
      rw [List.getElem?_map, List.getElem?_append, List.length_map, List.getElem?_map, List.getElem?_map]
      cases hk : shape[k]? with
      | none =>
        have hlong : shape.length ≤ k := List.getElem?_eq_none_iff.1 hk
        have hleft : left.length ≤ k - items.length := by
          rw [hshape, List.length_append] at hlong
          omega
        simp [Nat.not_lt.2 (Nat.le_trans hle hlong), List.getElem?_eq_none hleft]
      | some f =>
        rw [Option.map_some, hsame k f hk]
        by_cases hitem : k < items.length
        · simp [hitem]
        · rw [hshape, List.getElem?_append_right (by omega), ← hitems] at hk
          simp [hitem, hk]
    rw [← hvs]
    exact .obj members

/-! ## Reading -/

/-- How records are read that can be objects or arrays: by the values of their fields alone. -/
structure ReadsRecords {α γ : Type} (shape : List Field) (read : Json → Option α) (value : γ → α)
    (IsIn : γ → List (Option Json) → Prop) : Prop where
  accepts : ∀ j a, read j = some a ↔ ∃ c vs, j.Gives shape vs ∧ IsIn c vs ∧ a = value c
  length : ∀ items a, read (.arr items) = some a → items.length ≤ shape.length ∧
    ∀ (k : Nat) (f : Field), shape[k]? = some f → f.omittable = false → k < items.length
  /-- An object has for each field the value at its place in an array, or neither has one. -/
  agree : ∀ items members a, read (.arr items) = some a →
    (∀ (k : Nat) (f : Field), shape[k]? = some f → lastOf? f.name members = items[k]?) → read (.obj members) = some a
  named : ∀ items a, read (.arr items) = some a → read (.obj ((shape.map (·.name)).zip items)) = some a
  unknown : ∀ before key v after, (∀ f ∈ shape, f.name ≠ key) →
    read (.obj (before ++ (key, v) :: after)) = read (.obj (before ++ after))
  repeated : ∀ before key v between w after,
    read (.obj (before ++ (key, v) :: (between ++ (key, w) :: after))) =
      read (.obj (before ++ (between ++ (key, w) :: after)))

theorem read_obj_eq {α γ : Type} {shape : List Field} {read : Json → Option α} {value : γ → α}
    {IsIn : γ → List (Option Json) → Prop}
    (haccepts : ∀ j a, read j = some a ↔ ∃ c vs, j.Gives shape vs ∧ IsIn c vs ∧ a = value c)
    {members members' : List (String × Json)} (h : ∀ f ∈ shape, lastOf? f.name members = lastOf? f.name members') :
    read (.obj members) = read (.obj members') := by
  have hgives : ∀ vs, (Json.obj members).Gives shape vs ↔ (Json.obj members').Gives shape vs := by
    have hvs := List.map_congr_left h
    intro vs
    constructor
    · rintro ⟨⟩
      rw [hvs]
      exact .obj members'
    · rintro ⟨⟩
      rw [← hvs]
      exact .obj members
  refine Option.ext fun a => ?_
  simp only [haccepts, hgives]

/-- **A reading that goes by the values of the fields** takes both forms of a record alike. -/
theorem readsRecords_of_iff {α γ : Type} {shape : List Field} {read : Json → Option α} {value : γ → α}
    {IsIn : γ → List (Option Json) → Prop} {ofFields : (String → Option Json) → Option α}
    (hnodup : (shape.map (·.name)).Nodup) (hread : ∀ j, read j = (j.record? shape).bind ofFields)
    (hfields : ∀ get a, ofFields get = some a ↔ ∃ c, IsIn c (shape.map fun f => get f.name) ∧ a = value c) :
    ReadsRecords shape read value IsIn := by
  have haccepts : ∀ j a, read j = some a ↔ ∃ c vs, j.Gives shape vs ∧ IsIn c vs ∧ a = value c := by
    intro j a
    rw [hread, Option.bind_eq_some_iff]
    constructor
    · rintro ⟨get, hget, ha⟩
      obtain ⟨c, hc, rfl⟩ := (hfields get a).1 ha
      exact ⟨c, _, (gives_iff hnodup).2 ⟨get, hget, rfl⟩, hc, rfl⟩
    · rintro ⟨c, vs, hgives, hc, rfl⟩
      obtain ⟨get, hget, rfl⟩ := (gives_iff hnodup).1 hgives
      exact ⟨get, hget, (hfields get _).2 ⟨c, hc, rfl⟩⟩
  refine ⟨haccepts, ?_, ?_, ?_, ?_, ?_⟩
  · intro items a ha
    obtain ⟨c, vs, hgives, -, -⟩ := (haccepts _ _).1 ha
    exact hgives.length
  · intro items members a ha hsame
    obtain ⟨c, vs, hgives, hc, rfl⟩ := (haccepts _ _).1 ha
    exact (haccepts _ _).2 ⟨c, vs, hgives.of_arr hsame, hc, rfl⟩
  · intro items a ha
    obtain ⟨c, vs, hgives, hc, rfl⟩ := (haccepts _ _).1 ha
    exact (haccepts _ _).2 ⟨c, vs, hgives.zip hnodup, hc, rfl⟩
  · intro before key v after hkey
    refine read_obj_eq haccepts fun f hf => ?_
    rw [lastOf?_append, lastOf?_append, lastOf?_cons_of_ne (Ne.symm (hkey f hf))]
  · intro before key v between w after
    refine read_obj_eq haccepts fun f _ => ?_
    rw [lastOf?_append, lastOf?_append, lastOf?_cons_of_mem (b := w) (by simp)]

end LintGloss.Json
