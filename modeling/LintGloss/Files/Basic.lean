/-!
# Files

The files and directories that a command can see, as entries at places.  A place is
the list of names on the way from the root, which is itself a directory.
-/

namespace LintGloss

inductive Entry
  | file (content : List UInt8)
  | directory
  deriving DecidableEq, Repr, Inhabited

abbrev Place := List String

structure Files where
  entries : List (Place × Entry) := []
  deriving DecidableEq, Repr, Inhabited

namespace Files

def holds? (fs : Files) (p : Place) : Option Entry :=
  if p = [] then some .directory else fs.entries.lookup p

def set (fs : Files) (p : Place) (e : Entry) : Files :=
  ⟨(p, e) :: fs.entries.filter fun x => x.1 ≠ p⟩

/-- Empties a place and all places below it. -/
def erase (fs : Files) (p : Place) : Files :=
  ⟨fs.entries.filter fun x => !p.isPrefixOf x.1⟩

/-- Empties all places below a place. -/
def eraseBelow (fs : Files) (p : Place) : Files :=
  ⟨fs.entries.filter fun x => x.1 = p ∨ !p.isPrefixOf x.1⟩

theorem holds?_nil (fs : Files) : fs.holds? [] = some .directory := by simp [holds?]

/-- What stands at a place is found also when the entries of another are taken out. -/
theorem lookup_without (es : List (Place × Entry)) {p q : Place} (h : q ≠ p) :
    (es.filter fun x => x.1 ≠ p).lookup q = es.lookup q := by
  induction es with
  | nil => rfl
  | cons x xs ih => grind

theorem holds?_set (fs : Files) {p q : Place} (e : Entry) (hp : p ≠ []) :
    (fs.set p e).holds? q = if q = p then some e else fs.holds? q := by
  by_cases hq : q = []
  · subst hq; simp [holds?, Ne.symm hp]
  · by_cases h : q = p
    · subst h; simp [holds?, set, hq]
    · have hb : (q == p) = false := by simpa using h
      simp only [holds?, set, hq, h, if_false, List.lookup_cons, hb]
      exact lookup_without fs.entries h

end Files

end LintGloss
