import LintGloss.Detection
import Mathlib.Data.List.Basic
import Mathlib.Data.List.Find
/-!
# What detection looks at

Linters are detected by a few files of a directory (`probes`), so that two states of the files in which these are the
same have the same linters (`detect_eq`).  States that differ in what one file contains are of this kind, if no probe
leads to that file (`sameProbes_of_sameBut`).
-/

namespace LintGloss

namespace Files

/-- The places hold the same, but for what is in the file at one of them. -/
structure SameBut (fs fs' : Files) (p : Place) : Prop where
  holds?_eq : ∀ q, q ≠ p → fs.holds? q = fs'.holds? q
  exists_file : ∃ content, fs.holds? p = some (.file content)
  exists_file' : ∃ content, fs'.holds? p = some (.file content)

variable {fs fs' : Files} {p : Place}

theorem SameBut.isSome_eq (h : fs.SameBut fs' p) (q : Place) : (fs.holds? q).isSome = (fs'.holds? q).isSome := by
  by_cases hq : q = p
  · obtain ⟨content, hp⟩ := h.exists_file
    obtain ⟨content', hp'⟩ := h.exists_file'
    rw [hq, hp, hp']
    rfl
  · rw [h.holds?_eq q hq]

theorem SameBut.step_eq (h : fs.SameBut fs' p) : fs.step = fs'.step := by
  funext q part
  unfold Files.step
  by_cases hq : q = p
  · -- no path leads on from a file
    obtain ⟨content, hp⟩ := h.exists_file
    obtain ⟨content', hp'⟩ := h.exists_file'
    rw [hq, hp, hp']
  · rw [h.holds?_eq q hq, h.isSome_eq (q ++ [part])]

theorem SameBut.locate_eq (h : fs.SameBut fs' p) (path : String) : fs.locate path = fs'.locate path := by
  unfold Files.locate locateIn walk
  rw [h.step_eq]

theorem SameBut.hasPath_eq (h : fs.SameBut fs' p) (path : String) : fs.hasPath path = fs'.hasPath path := by
  unfold Files.hasPath
  rw [h.locate_eq path]

theorem SameBut.readText_eq (h : fs.SameBut fs' p) {path : String} (hpath : fs.locate path ≠ .ok p) :
    fs.readText path = fs'.readText path := by
  unfold readText
  rw [← h.locate_eq path]
  cases hlocate : fs.locate path with
  | error e => rfl
  | ok q =>
    have hq : q ≠ p := fun hq => hpath (hq ▸ hlocate)
    simp only [bind, Except.bind]
    rw [h.holds?_eq q hq]

/-- A file that is written with one content or another. -/
theorem sameBut_set (fs : Files) (hp : p ≠ []) (content content' : List UInt8) :
    (fs.set p (.file content)).SameBut (fs.set p (.file content')) p where
  holds?_eq q hq := by rw [holds?_set fs _ hp, holds?_set fs _ hp, if_neg hq, if_neg hq]
  exists_file := ⟨content, by rw [holds?_set fs _ hp, if_pos rfl]⟩
  exists_file' := ⟨content', by rw [holds?_set fs _ hp, if_pos rfl]⟩

end Files

namespace Detection

/-- The paths that tell which linters there are in a directory. -/
def probes (cwd : String) : List String :=
  (projectFile :: packageFile :: Tool.all.flatMap ownFiles).map (Path.join cwd)

structure SameProbes (fs fs' : Files) (cwd : String) : Prop where
  hasPath_eq : ∀ path ∈ probes cwd, fs.hasPath path = fs'.hasPath path
  readText_eq : ∀ path ∈ probes cwd, fs.readText path = fs'.readText path

variable {fs fs' : Files} {cwd : String}

theorem sameProbes_of_sameBut {p : Place} (h : fs.SameBut fs' p)
    (hprobes : ∀ path ∈ probes cwd, fs.locate path ≠ .ok p) : SameProbes fs fs' cwd where
  hasPath_eq path _ := h.hasPath_eq path
  readText_eq path hpath := h.readText_eq (hprobes path hpath)

theorem mem_probes_of_mem_ownFiles {t : Tool} {name : String} (h : name ∈ ownFiles t) :
    Path.join cwd name ∈ probes cwd := by
  have hfiles : name ∈ Tool.all.flatMap ownFiles := List.mem_flatMap.2 ⟨t, t.mem_all, h⟩
  exact List.mem_map_of_mem (List.mem_cons_of_mem _ (List.mem_cons_of_mem _ hfiles))

theorem tells_congr {path : String} (h : fs.readText path = fs'.readText path) (p : String → Bool) :
    tells fs path p = tells fs' path p := by
  unfold tells
  rw [h]

theorem shared?_eq (h : SameProbes fs fs' cwd) (t : Tool) : shared? fs cwd t = shared? fs' cwd t := by
  have hproject : Path.join cwd projectFile ∈ probes cwd := List.mem_cons_self
  have hpackage : Path.join cwd packageFile ∈ probes cwd := List.mem_cons_of_mem _ List.mem_cons_self
  cases t with
  | ruff | pyright => simp only [shared?, tells_congr (h.readText_eq _ hproject)]
  | eslint => simp only [shared?, tells_congr (h.readText_eq _ hpackage)]
  | typescript => rfl

theorem find?_ownFiles_congr {t : Tool}
    (h : ∀ name ∈ ownFiles t, fs.hasPath (Path.join cwd name) = fs'.hasPath (Path.join cwd name)) :
    ((ownFiles t).map (Path.join cwd)).find? fs.hasPath = ((ownFiles t).map (Path.join cwd)).find? fs'.hasPath :=
  List.find?_congr (List.forall_mem_map.2 h)

theorem detect_congr
    (hown : ∀ t, ∀ name ∈ ownFiles t, fs.hasPath (Path.join cwd name) = fs'.hasPath (Path.join cwd name))
    (hshared : ∀ t, shared? fs cwd t = shared? fs' cwd t) : detect fs cwd = detect fs' cwd := by
  refine List.filterMap_congr fun t _ => ?_
  unfold detect?
  rw [find?_ownFiles_congr (hown t), hshared t]

/-- **The probes tell which linters are detected.** -/
theorem detect_eq (h : SameProbes fs fs' cwd) : detect fs cwd = detect fs' cwd :=
  detect_congr (fun _ _ hname => h.hasPath_eq _ (mem_probes_of_mem_ownFiles hname)) (shared?_eq h)

end Detection

end LintGloss
