import LintGloss.Proofs.Diagnostic
import LintGloss.Proofs.Json.Items
/-!
# Odd diagnostics

An item of an output gives the same wherever it stands and whatever stands beside it (`reads_itemwise`).  This is so for
the values that an output holds, and for the texts that an output is put together from.
-/

namespace LintGloss

open Diagnostic

namespace Diagnostic.Eslint

structure ReadsMessagewise : Prop where
  /-- What is no file has no violations. -/
  misshapen : ∀ j, file? j = none → fileViolations j = []
  /-- A file has what its messages give, in their order. -/
  messages : ∀ j path ms, file? j = some (path, ms) →
    fileViolations j = ms.flatMap fun m => (violation? path m).toList
  /-- The messages of two files with one path, in one. -/
  append : ∀ j j₁ j₂ path ms ns, file? j = some (path, ms ++ ns) → file? j₁ = some (path, ms) →
    file? j₂ = some (path, ns) → fileViolations j = fileViolations j₁ ++ fileViolations j₂
  /-- An odd message can be put in or left out anywhere. -/
  skip : ∀ j j' path ms m ns, file? j = some (path, ms ++ m :: ns) → file? j' = some (path, ms ++ ns) →
    violation? path m = none → fileViolations j = fileViolations j'
  /-- Each violation carries the path of the file. -/
  path : ∀ j v, v ∈ fileViolations j → ∃ path ms, file? j = some (path, ms) ∧ v.file = path

theorem fileViolations_eq_flatMap {j : Json} {path : String} {ms : List Json} (h : file? j = some (path, ms)) :
    fileViolations j = ms.flatMap fun m => (violation? path m).toList := by
  rw [fileViolations, h]
  exact Tool.filterMap_eq_flatMap _ _

theorem reads_messagewise : ReadsMessagewise where
  misshapen := fun j h => by rw [fileViolations, h]
  messages := fun j path ms h => fileViolations_eq_flatMap h
  append := fun j j₁ j₂ path ms ns h h₁ h₂ => by
    rw [fileViolations_eq_flatMap h, fileViolations_eq_flatMap h₁, fileViolations_eq_flatMap h₂, List.flatMap_append]
  skip := fun j j' path ms m ns h h' hm => by
    rw [fileViolations_eq_flatMap h, fileViolations_eq_flatMap h', List.flatMap_append, List.flatMap_cons, hm,
      List.flatMap_append]
    rfl
  path := fun j v hv => by
    cases hfile : file? j with
    | none =>
      rw [fileViolations, hfile] at hv
      cases hv
    | some p =>
      obtain ⟨path, ms⟩ := p
      rw [fileViolations, hfile] at hv
      obtain ⟨m, -, hm⟩ := List.mem_filterMap.1 hv
      obtain ⟨line, column, code, message, -, rfl⟩ := exists_parts hm
      exact ⟨path, ms, rfl, rfl⟩

end Diagnostic.Eslint

namespace Tool

/-- How many arrays and objects are open around an item of an output. -/
def nesting : Tool → Nat
  | pyright => 2
  | _ => 1

/-- An output with nothing in it but items, given by their texts. -/
def outputOf (t : Tool) (items : List String) : String :=
  let array := Json.arrText (items.map String.toList)
  String.ofList <| match t with
    | pyright => '\x7b' :: (Json.quote Pyright.itemsKey ++ ':' :: (array ++ ['\x7d']))
    | _ => array

/-- A JSON text that can be an item, for it is not too deep. -/
def IsItemText (t : Tool) (s : String) : Prop :=
  ∃ j, Json.parse? s.toList = some j ∧ t.nesting + j.depth ≤ Json.Reader.depthLimit

structure ReadsItemwise (t : Tool) : Prop where
  /-- A blank output, one that is no JSON, and one of another shape at its top have no violations. -/
  blank : ∀ output, Text.trim output.toList = [] → t.read output = []
  malformed : ∀ output, Json.parse? (Text.trim output.toList) = none → t.read output = []
  misshapen : ∀ output j, Json.parse? (Text.trim output.toList) = some j → t.itemsIn? j = none → t.read output = []
  /-- Any other output has what its items give, in their order. -/
  items : ∀ output j xs, Json.parse? (Text.trim output.toList) = some j → t.itemsIn? j = some xs →
    t.read output = xs.flatMap t.itemViolations
  /-- The items of two outputs, in one. -/
  append : ∀ output output₁ output₂ xs ys, t.items? output = some (xs ++ ys) → t.items? output₁ = some xs →
    t.items? output₂ = some ys → t.read output = t.read output₁ ++ t.read output₂
  /-- An odd item can be put in or left out anywhere. -/
  skip : ∀ output output' xs x ys, t.items? output = some (xs ++ x :: ys) → t.items? output' = some (xs ++ ys) →
    t.itemViolations x = [] → t.read output = t.read output'
  /-- Texts of items give together what each gives alone. -/
  texts : ∀ ss, (∀ s ∈ ss, t.IsItemText s) → t.read (t.outputOf ss) = ss.flatMap fun s => t.read (t.outputOf [s])
  /-- An item is one violation at most, or a file with messages. -/
  single : t ≠ eslint → ∀ x, (t.itemViolations x).length ≤ 1
  messages : t = eslint → Eslint.ReadsMessagewise

/-! ## Items of an output -/

variable {t : Tool}

theorem read_of_items? (ht : t.writesJson = true) {output : String} {xs : List Json} (h : t.items? output = some xs) :
    t.read output = xs.flatMap t.itemViolations := by
  rw [read_eq_flatMap ht, h]
  rfl

theorem read_of_items?_eq_none (ht : t.writesJson = true) {output : String} (h : t.items? output = none) :
    t.read output = [] := by
  rw [read_eq_flatMap ht, h]
  rfl

theorem length_itemViolations_le (ht : t ≠ eslint) (x : Json) : (t.itemViolations x).length ≤ 1 := by
  cases t with
  | ruff => exact Option.length_toList_le
  | pyright => exact Option.length_toList_le
  | eslint => exact absurd rfl ht
  | typescript => exact Nat.zero_le _

/-! ## Texts of items -/

theorem lexes_itemsKey : Json.Lexes (Json.quote Pyright.itemsKey) [.str Pyright.itemsKey] :=
  Json.lex_eq_some_iff.1 (by decide +kernel)

/-- Nothing blank stands at the ends of an output that is put together. -/
theorem trim_outputOf (t : Tool) (ss : List String) : Text.trim (t.outputOf ss).toList = (t.outputOf ss).toList := by
  have harray : Text.trim (Json.arrText (ss.map String.toList)) = Json.arrText (ss.map String.toList) := by
    refine Text.trim_eq_self (fun c hc => ?_) (fun c hc => ?_)
    · rw [Json.head?_arrText] at hc
      exact Option.some.inj hc ▸ by decide
    · rw [Json.getLast?_arrText] at hc
      exact Option.some.inj hc ▸ by decide
  cases t with
  | pyright =>
    simp only [outputOf, String.toList_ofList]
    refine Text.trim_eq_self (fun c hc => Option.some.inj hc ▸ by decide) (fun c hc => ?_)
    rw [← List.cons_append, ← List.cons_append, ← List.append_assoc, List.getLast?_concat] at hc
    exact Option.some.inj hc ▸ by decide
  | _ => simpa only [outputOf, String.toList_ofList] using harray

/-- **An output that is put together holds the values of the texts.** -/
theorem items?_outputOf (ht : t.writesJson = true) {ss : List String} {xs : List Json}
    (h : (ss.map String.toList).map Json.parse? = xs.map some)
    (hd : ∀ j ∈ xs, t.nesting + j.depth ≤ Json.Reader.depthLimit) : t.items? (t.outputOf ss) = some xs := by
  rw [items?, trim_outputOf]
  cases t with
  | ruff | eslint =>
    have hparse := (Json.writesIn_arrText [] h (by decide) hd).parse?
    simp only [outputOf, String.toList_ofList, hparse]
    rfl
  | pyright =>
    have harray := Json.writesIn_arrText [.obj [] Pyright.itemsKey] h (by decide) hd
    have hparse := (Json.writesIn_objText [] lexes_itemsKey (by decide) harray).parse?
    simp only [outputOf, String.toList_ofList, hparse]
    rfl
  | typescript => cases ht

theorem exists_items_of_texts : ∀ {ss : List String}, (∀ s ∈ ss, t.IsItemText s) →
    ∃ xs : List Json, (ss.map String.toList).map Json.parse? = xs.map some ∧
      ∀ j ∈ xs, t.nesting + j.depth ≤ Json.Reader.depthLimit
  | [], _ => ⟨[], rfl, List.forall_mem_nil _⟩
  | s :: ss, h => by
    obtain ⟨⟨j, hj, hd⟩, hss⟩ := List.forall_mem_cons.1 h
    obtain ⟨xs, hxs, hds⟩ := exists_items_of_texts hss
    exact ⟨j :: xs, by rw [List.map_cons, List.map_cons, hj, hxs, List.map_cons], List.forall_mem_cons.2 ⟨hd, hds⟩⟩

theorem read_outputOf (ht : t.writesJson = true) : ∀ {ss : List String}, (∀ s ∈ ss, t.IsItemText s) →
    t.read (t.outputOf ss) = ss.flatMap fun s => t.read (t.outputOf [s])
  | [], _ => by
    have hnone : t.items? (t.outputOf []) = some [] := items?_outputOf ht rfl (List.forall_mem_nil _)
    rw [read_of_items? ht hnone]
    rfl
  | s :: ss, h => by
    obtain ⟨⟨j, hj, hd⟩, hss⟩ := List.forall_mem_cons.1 h
    obtain ⟨xs, hxs, hds⟩ := exists_items_of_texts hss
    -- one text more is one value more in front
    have hone : t.items? (t.outputOf [s]) = some [j] :=
      items?_outputOf ht (congrArg (· :: []) hj) (List.forall_mem_singleton.2 hd)
    have hrest : t.items? (t.outputOf ss) = some xs := items?_outputOf ht hxs hds
    have hall : t.items? (t.outputOf (s :: ss)) = some (j :: xs) :=
      items?_outputOf ht (by rw [List.map_cons, List.map_cons, hj, hxs, List.map_cons])
        (List.forall_mem_cons.2 ⟨hd, hds⟩)
    rw [List.flatMap_cons, ← read_outputOf ht hss, read_of_items? ht hall, read_of_items? ht hone,
      read_of_items? ht hrest, List.flatMap_singleton, List.flatMap_cons]

/-- **One bad diagnostic never hides the others.** -/
theorem reads_itemwise (ht : t.writesJson = true) : t.ReadsItemwise where
  blank := fun output h => by
    rw [read_of_items?_eq_none ht]
    rw [items?, h]
    rfl
  malformed := fun output h => by
    rw [read_of_items?_eq_none ht]
    rw [items?, h]
    rfl
  misshapen := fun output j h hj => by
    rw [read_of_items?_eq_none ht]
    rw [items?, h]
    exact hj
  items := fun output j xs h hj => by
    rw [read_of_items? ht]
    rw [items?, h]
    exact hj
  append := fun output output₁ output₂ xs ys h h₁ h₂ => by
    rw [read_of_items? ht h, read_of_items? ht h₁, read_of_items? ht h₂, List.flatMap_append]
  skip := fun output output' xs x ys h h' hx => by
    rw [read_of_items? ht h, read_of_items? ht h', List.flatMap_append, List.flatMap_cons, hx, List.nil_append,
      List.flatMap_append]
  texts := fun ss h => read_outputOf ht h
  single := fun ht x => length_itemViolations_le ht x
  messages := fun _ => Eslint.reads_messagewise

/-- A number among the diagnostics, in front of one that is read. -/
theorem reads_itemwise_ruff :
    let ss := ["1", "[\"F401\",\"a.py\",[2,3],\"m\"]"]
    writesJson ruff = true ∧ (∀ s ∈ ss, IsItemText ruff s) ∧
      read ruff (outputOf ruff ss) = [.ofParts .ruff "a.py" 2 3 "F401" "m"] := by
  intro ss
  have hitems : ∀ s ∈ ss, IsItemText ruff s := by
    refine List.forall_mem_cons.2 ⟨⟨.int 1, rfl, by decide⟩, List.forall_mem_singleton.2 ?_⟩
    exact ⟨.arr [.str "F401", .str "a.py", .arr [.int 2, .int 3], .str "m"], rfl, by decide⟩
  refine ⟨rfl, hitems, ((reads_itemwise rfl).texts ss hitems).trans ?_⟩
  decide +kernel

end Tool

end LintGloss
