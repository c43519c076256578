import LintGloss.Proofs.Yaml.Values
/-!
# Keys of mappings

No mapping in the value of a document holds a key twice (`wellKeyed_of_parse?`).  Keys are told apart as values, so that
the number one and the text `1` are two.
-/

namespace LintGloss.Yaml

/-- No mapping in the value holds a key twice. -/
inductive WellKeyed : Yaml → Prop
  | null : WellKeyed .null
  | bool (b : Bool) : WellKeyed (.bool b)
  | int (n : Int) : WellKeyed (.int n)
  | real (x : Binary64) : WellKeyed (.real x)
  | str (s : String) : WellKeyed (.str s)
  | seq {items : List Yaml} (hitems : ∀ v ∈ items, WellKeyed v) : WellKeyed (.seq items)
  | map {entries : List (Yaml × Yaml)} (hdistinct : entries.Pairwise fun a b => a.1.same b.1 = false)
      (hkeys : ∀ e ∈ entries, WellKeyed e.1) (hvalues : ∀ e ∈ entries, WellKeyed e.2) : WellKeyed (.map entries)
  | tagged (tag : String) {v : Yaml} (hv : WellKeyed v) : WellKeyed (.tagged tag v)

theorem WellKeyed.map_nil : (Yaml.map []).WellKeyed := .map .nil (List.forall_mem_nil _) (List.forall_mem_nil _)

theorem WellKeyed.hereditary : Hereditary WellKeyed :=
  { null := .null, bool := .bool, int := fun _ => .int _, real := .real, str := .str, seq := .seq, map := .map,
    tagged := .tagged }

/-- **A document has no mapping with a key twice.** -/
theorem wellKeyed_of_parse? {s : List Char} {v : Yaml} (h : parse? s = some v) : v.WellKeyed :=
  WellKeyed.hereditary.of_parse? h

end LintGloss.Yaml
