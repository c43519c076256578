import LintGloss.Files.Change
import LintGloss.Proofs.Adjustment
import LintGloss.Proofs.Detection
import LintGloss.Proofs.Files.Erasing
import LintGloss.Proofs.Toml.Tables
/-!
# Why linters are detected

A linter is detected by a file of its own, the first of them that is there, or else by what a shared file says
(`detect?_cases`).  A shared file that cannot be read or parsed says nothing, so that it may as well be missing
(`detect_eq_of_broken_project`, `detect_eq_of_broken_package`); and a linter with a file of its own does not listen to
any other (`detect?_congr_of_own`).
-/

namespace LintGloss

open LintGloss.Path (join)

/-! ## Removing a file of a directory -/

namespace Files

variable {fs : Files} {cwd name : String} {p : Place}

theorem remove_join (hname : '/' ∉ name.toList) (hn : Path.isName name = true)
    (h : fs.locate (join cwd name) = .ok p) : fs.remove (join cwd name) = fs.erase p := by
  obtain ⟨parts, hsplit, -, -⟩ := Path.exists_split_join cwd hname
  have hne : name ≠ "" := by
    rintro rfl
    cases hn
  have hlast : (Path.stem (join cwd name)).getLast? = some name := by simp [Path.stem, hsplit, hne]
  rw [remove, h, hlast]
  exact if_pos hn

end Files

namespace Detection

open Invocation (standard)

variable {fs fs' : Files} {cwd : String} {t : Tool} {i : Invocation}

/-! ## What shared files say -/

/-- The project file has a table for a name under its tools. -/
def ProjectHas (fs : Files) (cwd name : String) : Prop :=
  ∃ text project tools part, fs.readText (join cwd "pyproject.toml") = .ok text ∧
    Toml.parse? text.toList = some project ∧ project.get? "tool" = some tools ∧ tools.get? name = some part ∧
      part.isTable = true

/-- The package or its development depends on eslint, in whichever version. -/
def PackageHasEslint (fs : Files) (cwd : String) : Prop :=
  ∃ text members key dependencies version, fs.readText (join cwd "package.json") = .ok text ∧
    Json.parse? text.toList = some (.obj members) ∧ (key = "dependencies" ∨ key = "devDependencies") ∧
      lastOf? key members = some (.obj dependencies) ∧ ("eslint", version) ∈ dependencies

theorem tells_eq_true_iff {path : String} {p : String → Bool} :
    tells fs path p = true ↔ ∃ text, fs.readText path = .ok text ∧ p text = true := by
  unfold tells
  cases fs.readText path <;> simp

theorem projectHas_eq_true_iff {text : String} : projectHas t text = true ↔
    ∃ project tools part, Toml.parse? text.toList = some project ∧ project.get? "tool" = some tools ∧
      tools.get? t.name = some part ∧ part.isTable = true := by
  unfold projectHas
  cases Toml.parse? text.toList with
  | none => simp
  | some project => simp [Option.any_eq_true]

theorem member?_eq_some_iff {key : String} {j v : Json} :
    j.member? key = some v ↔ ∃ members, j = .obj members ∧ lastOf? key members = some v := by
  cases j <;> simp [Json.member?]

theorem isSome_member?_eslint_iff {j : Json} :
    (j.member? "eslint").isSome ↔ ∃ members version, j = .obj members ∧ ("eslint", version) ∈ members := by
  rw [Option.isSome_iff_exists]
  constructor
  · rintro ⟨v, hv⟩
    obtain ⟨members, rfl, hlast⟩ := member?_eq_some_iff.1 hv
    obtain ⟨before, after, rfl, -⟩ := lastOf?_eq_some_iff.1 hlast
    exact ⟨_, v, rfl, by simp⟩
  · rintro ⟨members, version, rfl, hmem⟩
    refine Option.isSome_iff_exists.1 (Option.isSome_iff_ne_none.2 fun hnone => ?_)
    exact lastOf?_eq_none_iff.1 hnone _ hmem rfl

theorem packageHasEslint_eq_true_iff {text : String} : packageHasEslint text = true ↔
    ∃ members key dependencies version, Json.parse? text.toList = some (.obj members) ∧
      (key = "dependencies" ∨ key = "devDependencies") ∧ lastOf? key members = some (.obj dependencies) ∧
        ("eslint", version) ∈ dependencies := by
  unfold packageHasEslint
  cases hparse : Json.parse? text.toList with
  | none => simp
  | some package =>
    have hpart (key : String) : ((package.member? key).bind (·.member? "eslint")).isSome = true ↔
        ∃ members dependencies version, package = .obj members ∧ lastOf? key members = some (.obj dependencies) ∧
          ("eslint", version) ∈ dependencies := by
      rw [Option.isSome_bind, Option.any_eq_true]
      constructor
      · rintro ⟨part, hpart, heslint⟩
        obtain ⟨members, rfl, hlast⟩ := member?_eq_some_iff.1 hpart
        obtain ⟨dependencies, version, rfl, hmem⟩ := isSome_member?_eslint_iff.1 heslint
        exact ⟨members, dependencies, version, rfl, hlast, hmem⟩
      · rintro ⟨members, dependencies, version, rfl, hlast, hmem⟩
        exact ⟨_, hlast, isSome_member?_eslint_iff.2 ⟨_, _, rfl, hmem⟩⟩
    simp only [List.any_cons, List.any_nil, Bool.or_false, Bool.or_eq_true, hpart]
    constructor
    · rintro (⟨members, dependencies, version, rfl, h⟩ | ⟨members, dependencies, version, rfl, h⟩)
      · exact ⟨members, _, dependencies, version, rfl, .inl rfl, h⟩
      · exact ⟨members, _, dependencies, version, rfl, .inr rfl, h⟩
    · rintro ⟨members, key, dependencies, version, hmembers, hkey, h⟩
      rcases hkey with rfl | rfl
      · exact .inl ⟨members, dependencies, version, Option.some.inj hmembers, h⟩
      · exact .inr ⟨members, dependencies, version, Option.some.inj hmembers, h⟩

theorem tells_projectHas_iff :
    tells fs (join cwd projectFile) (projectHas t) = true ↔ ProjectHas fs cwd t.name := by
  simp only [tells_eq_true_iff, projectHas_eq_true_iff, ProjectHas, projectFile, ← exists_and_left]

/-- A project file that starts with the header of a linter's table has the table, if it is TOML at all. -/
theorem projectHas_of_header (t : Tool) {rest : String} {project : Toml}
    (htext : fs.readText (join cwd "pyproject.toml") = .ok ("[tool." ++ t.name ++ "]" ++ rest))
    (hproject : Toml.parse? ("[tool." ++ t.name ++ "]" ++ rest).toList = some project) :
    ProjectHas fs cwd t.name := by
  have hname : Toml.IsBare t.name.toList := by cases t <;> exact ⟨by decide, List.all_eq_true.1 (by decide)⟩
  have htool : Toml.IsBare "tool".toList := ⟨by decide, List.all_eq_true.1 (by decide)⟩
  have hfront : ("[tool." ++ t.name ++ "]" ++ rest).toList =
      '[' :: ("tool".toList ++ '.' :: (t.name.toList ++ ']' :: rest.toList)) := by simp
  obtain ⟨tools, part, htools, hpart, htable⟩ := Toml.exists_table_of_header htool hname (hfront ▸ hproject)
  rw [String.ofList_toList] at htools hpart
  exact ⟨_, project, tools, part, htext, hproject, htools, hpart, htable⟩

theorem tells_packageHasEslint_iff :
    tells fs (join cwd packageFile) packageHasEslint = true ↔ PackageHasEslint fs cwd := by
  simp only [tells_eq_true_iff, packageHasEslint_eq_true_iff, PackageHasEslint, packageFile, ← exists_and_left]

/-! ## One linter -/

/-- **A file of its own counts before what a shared file says**, and the first of them before the others. -/
theorem detect?_cases (fs : Files) (cwd : String) (t : Tool) :
    (∃ before name after, ownFiles t = before ++ name :: after ∧ (∀ n ∈ before, fs.hasPath (join cwd n) = false) ∧
      fs.hasPath (join cwd name) = true ∧ detect? fs cwd t = some (standard t (some (join cwd name)))) ∨
    ((∀ n ∈ ownFiles t, fs.hasPath (join cwd n) = false) ∧ detect? fs cwd t = shared? fs cwd t) := by
  unfold detect?
  cases hfind : ((ownFiles t).map (join cwd)).find? fs.hasPath with
  | none =>
    refine .inr ⟨fun n hn => ?_, rfl⟩
    simpa using List.find?_eq_none.1 hfind _ (List.mem_map_of_mem hn)
  | some path =>
    obtain ⟨hpath, before, after, hsplit, hbefore⟩ := List.find?_eq_some_iff_append.1 hfind
    obtain ⟨before, rest, hown, rfl, hrest⟩ := List.map_eq_append_iff.1 hsplit
    obtain ⟨name, after, rfl, rfl, -⟩ := List.map_eq_cons_iff.1 hrest
    refine .inl ⟨before, name, after, hown, fun n hn => ?_, hpath, rfl⟩
    simpa using hbefore _ (List.mem_map_of_mem hn)

theorem configPath_of_first {before after : List String} {name : String} (hi : detect? fs cwd t = some i)
    (hown : ownFiles t = before ++ name :: after) (hbefore : ∀ n ∈ before, fs.hasPath (join cwd n) = false)
    (hname : fs.hasPath (join cwd name) = true) : i.configPath = some (join cwd name) := by
  have hfind : ((ownFiles t).map (join cwd)).find? fs.hasPath = some (join cwd name) := by
    refine List.find?_eq_some_iff_append.2 ⟨hname, before.map (join cwd), after.map (join cwd), by simp [hown], ?_⟩
    exact List.forall_mem_map.2 fun n hn => by simp [hbefore n hn]
  rw [detect?, hfind] at hi
  rw [← Option.some.inj hi]
  rfl

theorem configPath_of_shared (hi : detect? fs cwd t = some i)
    (hown : ∀ n ∈ ownFiles t, fs.hasPath (join cwd n) = false) :
    i.configPath = if t = .eslint then none else some (join cwd projectFile) := by
  rcases detect?_cases fs cwd t with ⟨before, name, after, hsplit, -, hname, -⟩ | ⟨-, hshared⟩
  · rw [hown name (by simp [hsplit])] at hname
    cases hname
  · rw [hshared] at hi
    cases t with
    | ruff | pyright | eslint =>
      rw [← Option.some.inj (Option.ite_none_right_eq_some.1 hi).2]
      rfl
    | typescript => cases hi

theorem isSome_detect?_iff :
    (detect? fs cwd t).isSome ↔
      (∃ name ∈ ownFiles t, fs.hasPath (join cwd name) = true) ∨ (shared? fs cwd t).isSome := by
  rcases detect?_cases fs cwd t with ⟨before, name, after, hsplit, -, hname, hdetect⟩ | ⟨hown, hdetect⟩
  · rw [hdetect]
    simp only [Option.isSome_some, true_iff]
    exact .inl ⟨name, by simp [hsplit], hname⟩
  · rw [hdetect]
    refine ⟨.inr, fun h => h.resolve_left ?_⟩
    rintro ⟨name, hmem, hname⟩
    rw [hown name hmem] at hname
    cases hname

theorem invocationOf?_detect (fs : Files) (cwd : String) (t : Tool) :
    invocationOf? t (detect fs cwd) = detect? fs cwd t := by
  rw [detect, invocationOf?_filterMap (fun _ _ => tool_of_detect?), if_pos t.mem_all]

theorem mem_toolsOf_detect_iff : t ∈ toolsOf (detect fs cwd) ↔
    (∃ name ∈ ownFiles t, fs.hasPath (join cwd name) = true) ∨ (shared? fs cwd t).isSome := by
  rw [← isSome_detect?_iff, ← invocationOf?_detect, Option.isSome_iff_ne_none, ne_eq, invocationOf?_eq_none_iff,
    not_not]

theorem detect?_of_mem_detect (h : i ∈ detect fs cwd) : detect? fs cwd i.tool = some i := by
  obtain ⟨t, -, ht⟩ := List.mem_filterMap.1 h
  rwa [tool_of_detect? ht]

/-! ## Two states of the files -/

/-- **A linter with a file of its own listens to no other file.** -/
theorem detect?_congr_of_own (hown : ∀ n ∈ ownFiles t, fs.hasPath (join cwd n) = fs'.hasPath (join cwd n))
    (hthere : ∃ name ∈ ownFiles t, fs.hasPath (join cwd name) = true) : detect? fs cwd t = detect? fs' cwd t := by
  unfold detect?
  rw [← find?_ownFiles_congr hown]
  cases h : ((ownFiles t).map (join cwd)).find? fs.hasPath with
  | some path => rfl
  | none =>
    obtain ⟨name, hmem, hname⟩ := hthere
    exact absurd hname (List.find?_eq_none.1 h _ (List.mem_map_of_mem hmem))

def probeNames : List String := projectFile :: packageFile :: Tool.all.flatMap ownFiles

/-- The files that detection looks at are the same, but for one of them. -/
structure SameBeside (fs fs' : Files) (cwd name : String) : Prop where
  hasPath_eq : ∀ other ∈ probeNames, other ≠ name → fs.hasPath (join cwd other) = fs'.hasPath (join cwd other)
  readText_eq : ∀ other ∈ probeNames, other ≠ name → fs.readText (join cwd other) = fs'.readText (join cwd other)

/-- The file is readable only as a text that does not parse. -/
def IsBroken {α : Type} (fs : Files) (path : String) (parse? : List Char → Option α) : Prop :=
  ∀ text, fs.readText path = .ok text → parse? text.toList = none

theorem not_projectHas_of_isBroken (h : IsBroken fs (join cwd projectFile) Toml.parse?) (name : String) :
    ¬ ProjectHas fs cwd name := by
  rintro ⟨text, project, -, -, htext, hproject, -⟩
  rw [h text htext] at hproject
  cases hproject

theorem not_packageHasEslint_of_isBroken (h : IsBroken fs (join cwd packageFile) Json.parse?) :
    ¬ PackageHasEslint fs cwd := by
  rintro ⟨text, members, -, -, -, htext, hpackage, -⟩
  rw [h text htext] at hpackage
  cases hpackage

theorem isBroken_of_not_hasPath {α : Type} {path : String} (h : fs.hasPath path = false)
    (parse? : List Char → Option α) : IsBroken fs path parse? := by
  intro text htext
  obtain ⟨p, hp, -⟩ := bind_eq_ok_iff.1 htext
  rw [Files.hasPath_of_locate hp] at h
  cases h

theorem notMem_ownFiles_of_shared {name : String} (h : name = projectFile ∨ name = packageFile) (t : Tool) :
    name ∉ ownFiles t := by
  rcases h with rfl | rfl <;> cases t <;> decide

theorem mem_probeNames_of_mem_ownFiles {name : String} (h : name ∈ ownFiles t) : name ∈ probeNames :=
  List.mem_cons_of_mem _ (List.mem_cons_of_mem _ (List.mem_flatMap.2 ⟨t, t.mem_all, h⟩))

theorem detect_eq_of_shared {name : String} (hname : name = projectFile ∨ name = packageFile)
    (h : SameBeside fs fs' cwd name) (hshared : ∀ t, shared? fs cwd t = shared? fs' cwd t) :
    detect fs cwd = detect fs' cwd := by
  refine detect_congr (fun t n hn => ?_) hshared
  exact h.hasPath_eq n (mem_probeNames_of_mem_ownFiles hn) fun heq => notMem_ownFiles_of_shared hname t (heq ▸ hn)

/-- **A project file that is broken is as good as none.** -/
theorem detect_eq_of_broken_project (h : SameBeside fs fs' cwd projectFile)
    (hbroken : IsBroken fs (join cwd projectFile) Toml.parse?)
    (hbroken' : IsBroken fs' (join cwd projectFile) Toml.parse?) : detect fs cwd = detect fs' cwd := by
  refine detect_eq_of_shared (.inl rfl) h fun t => ?_
  have hpackage := h.readText_eq packageFile (by simp [probeNames]) (by decide)
  have hsilent := fun t : Tool => not_projectHas_of_isBroken hbroken t.name
  have hsilent' := fun t : Tool => not_projectHas_of_isBroken hbroken' t.name
  cases t with
  | ruff | pyright => simp only [shared?, tells_projectHas_iff, hsilent, hsilent']
  | eslint => simp only [shared?, tells_congr hpackage]
  | typescript => rfl

/-- **A package file that is broken is as good as none.** -/
theorem detect_eq_of_broken_package (h : SameBeside fs fs' cwd packageFile)
    (hbroken : IsBroken fs (join cwd packageFile) Json.parse?)
    (hbroken' : IsBroken fs' (join cwd packageFile) Json.parse?) : detect fs cwd = detect fs' cwd := by
  refine detect_eq_of_shared (.inr rfl) h fun t => ?_
  have hproject := h.readText_eq projectFile (by simp [probeNames]) (by decide)
  cases t with
  | ruff | pyright => simp only [shared?, tells_congr hproject]
  | eslint =>
    simp only [shared?, tells_packageHasEslint_iff, not_packageHasEslint_of_isBroken hbroken,
      not_packageHasEslint_of_isBroken hbroken']
  | typescript => rfl

/-! ## Removing a probe -/

theorem isName_of_mem_probeNames : ∀ name ∈ probeNames, Path.isName name = true ∧ '/' ∉ name.toList := by decide

/-- Removing one of the files leaves the others as they are, if the way to the directory does not go up again. -/
theorem sameBeside_remove (fs : Files) {name : String} (hname : name ∈ probeNames) (hcwd : ".." ∉ Path.split cwd) :
    SameBeside fs (fs.remove (join cwd name)) cwd name ∧
      (fs.remove (join cwd name)).hasPath (join cwd name) = false := by
  obtain ⟨hn, hslash⟩ := isName_of_mem_probeNames name hname
  have hup := Path.up_notMem_split_join hslash hn hcwd
  cases hlocate : fs.locate (join cwd name) with
  | error e =>
    have hremove : fs.remove (join cwd name) = fs := by rw [Files.remove, hlocate]
    rw [hremove, Files.hasPath, hlocate]
    exact ⟨⟨fun _ _ _ => rfl, fun _ _ _ => rfl⟩, rfl⟩
  | ok p =>
    have hp : p = Path.names cwd ++ [name] := by rw [(Files.locate_eq_ok hlocate hup).1, Path.names_join cwd hslash hn]
    have hroot : p ≠ [] := by simp [hp]
    rw [Files.remove_join hslash hn hlocate]
    have hbeside : ∀ other ∈ probeNames, other ≠ name →
        ".." ∉ Path.split (join cwd other) ∧ ¬ p <+: Path.names (join cwd other) := by
      intro other hother hne
      obtain ⟨hn', hslash'⟩ := isName_of_mem_probeNames other hother
      refine ⟨Path.up_notMem_split_join hslash' hn' hcwd, ?_⟩
      rw [Path.names_join cwd hslash' hn', hp, List.prefix_append_right_inj]
      simpa using Ne.symm hne
    refine ⟨⟨fun other hother hne => ?_, fun other hother hne => ?_⟩, ?_⟩
    · obtain ⟨hup', hout⟩ := hbeside other hother hne
      exact (Files.hasPath_erase hroot hup' hout).symm
    · obtain ⟨hup', hout⟩ := hbeside other hother hne
      exact (Files.readText_erase hroot hup' hout).symm
    · exact Files.hasPath_erase_self hroot hup ((Files.locate_eq_ok hlocate hup).1 ▸ List.prefix_rfl)

/-! ## The whole of detection -/

/-- Which linters are detected in a directory, how they run and from which file, and what makes no difference. -/
structure DetectsByFiles (fs : Files) (cwd : String) : Prop where
  sublist : (toolsOf (detect fs cwd)).Sublist [.ruff, .pyright, .eslint, .typescript]
  nodup : (toolsOf (detect fs cwd)).Nodup
  standard : ∀ i ∈ detect fs cwd, i.program = i.tool.program ∧ i.formatArgs = i.tool.formatArgs ∧
    i.targets = i.tool.targets ∧ i.explicitConfig = false ∧ i.timeoutSecs = none
  ruff_iff : .ruff ∈ toolsOf (detect fs cwd) ↔
    fs.hasPath (join cwd "ruff.toml") = true ∨ ProjectHas fs cwd "ruff"
  pyright_iff : .pyright ∈ toolsOf (detect fs cwd) ↔
    fs.hasPath (join cwd "pyrightconfig.json") = true ∨ ProjectHas fs cwd "pyright"
  eslint_iff : .eslint ∈ toolsOf (detect fs cwd) ↔
    (∃ name ∈ ["eslint.config.js", "eslint.config.mjs", "eslint.config.cjs", ".eslintrc.js", ".eslintrc.cjs",
      ".eslintrc.json", ".eslintrc.yml", ".eslintrc.yaml"], fs.hasPath (join cwd name) = true) ∨
      PackageHasEslint fs cwd
  typescript_iff : .typescript ∈ toolsOf (detect fs cwd) ↔ fs.hasPath (join cwd "tsconfig.json") = true
  /-- The first of the files of its own. -/
  configPath_of_own : ∀ i ∈ detect fs cwd, ∀ before name after, ownFiles i.tool = before ++ name :: after →
    (∀ n ∈ before, fs.hasPath (join cwd n) = false) → fs.hasPath (join cwd name) = true →
      i.configPath = some (join cwd name)
  configPath_of_shared : ∀ i ∈ detect fs cwd, (∀ n ∈ ownFiles i.tool, fs.hasPath (join cwd n) = false) →
    i.configPath = if i.tool = .eslint then none else some (join cwd "pyproject.toml")
  broken_project : IsBroken fs (join cwd "pyproject.toml") Toml.parse? →
    ∀ fs', SameBeside fs fs' cwd "pyproject.toml" → fs'.hasPath (join cwd "pyproject.toml") = false →
      detect fs' cwd = detect fs cwd
  broken_package : IsBroken fs (join cwd "package.json") Json.parse? →
    ∀ fs', SameBeside fs fs' cwd "package.json" → fs'.hasPath (join cwd "package.json") = false →
      detect fs' cwd = detect fs cwd
  remove_project : IsBroken fs (join cwd "pyproject.toml") Toml.parse? → ".." ∉ Path.split cwd →
    detect (fs.remove (join cwd "pyproject.toml")) cwd = detect fs cwd
  remove_package : IsBroken fs (join cwd "package.json") Json.parse? → ".." ∉ Path.split cwd →
    detect (fs.remove (join cwd "package.json")) cwd = detect fs cwd
  /-- Whatever the other files are, and whatever is in its own. -/
  own_alone : ∀ t, (∃ name ∈ ownFiles t, fs.hasPath (join cwd name) = true) →
    ∀ fs', (∀ n ∈ ownFiles t, fs.hasPath (join cwd n) = fs'.hasPath (join cwd n)) →
      invocationOf? t (detect fs' cwd) = invocationOf? t (detect fs cwd)
  /-- Whatever is in any one file. -/
  own_content : ∀ t, (∃ name ∈ ownFiles t, fs.hasPath (join cwd name) = true) →
    ∀ fs' p, fs.SameBut fs' p → invocationOf? t (detect fs' cwd) = invocationOf? t (detect fs cwd)

theorem isSome_shared?_iff : (shared? fs cwd t).isSome ↔ match t with
    | .ruff | .pyright => ProjectHas fs cwd t.name
    | .eslint => PackageHasEslint fs cwd
    | .typescript => False := by
  cases t with
  | ruff | pyright =>
    rw [← tells_projectHas_iff, shared?]
    split <;> simp_all
  | eslint =>
    rw [← tells_packageHasEslint_iff, shared?]
    split <;> simp_all
  | typescript => simp [shared?]

/-- **Detection goes by files**: a file of a linter's own before the shared ones, a broken one being as good as none. -/
theorem detects_by_files (fs : Files) (cwd : String) : DetectsByFiles fs cwd where
  sublist := toolsOf_detect_sublist fs cwd
  nodup := nodup_tools_detect fs cwd
  standard i hi := by
    obtain ⟨path, hpath⟩ := exists_standard_of_mem_detect hi
    rw [hpath]
    exact ⟨rfl, rfl, rfl, rfl, rfl⟩
  ruff_iff := by
    rw [mem_toolsOf_detect_iff, isSome_shared?_iff]
    simp [ownFiles, Tool.name]
  pyright_iff := by
    rw [mem_toolsOf_detect_iff, isSome_shared?_iff]
    simp [ownFiles, Tool.name]
  eslint_iff := by
    rw [mem_toolsOf_detect_iff, isSome_shared?_iff]
    rfl
  typescript_iff := by
    rw [mem_toolsOf_detect_iff, isSome_shared?_iff]
    simp [ownFiles]
  configPath_of_own i hi _ _ _ hown hbefore hname :=
    configPath_of_first (detect?_of_mem_detect hi) hown hbefore hname
  configPath_of_shared i hi hown := configPath_of_shared (detect?_of_mem_detect hi) hown
  broken_project hbroken _ hbeside habsent :=
    (detect_eq_of_broken_project hbeside hbroken (isBroken_of_not_hasPath habsent _)).symm
  broken_package hbroken _ hbeside habsent :=
    (detect_eq_of_broken_package hbeside hbroken (isBroken_of_not_hasPath habsent _)).symm
  remove_project hbroken hcwd := by
    have hproject : projectFile ∈ probeNames := List.mem_cons_self
    obtain ⟨hbeside, habsent⟩ := sameBeside_remove fs hproject hcwd
    exact (detect_eq_of_broken_project hbeside hbroken (isBroken_of_not_hasPath habsent _)).symm
  remove_package hbroken hcwd := by
    have hpackage : packageFile ∈ probeNames := List.mem_cons_of_mem _ List.mem_cons_self
    obtain ⟨hbeside, habsent⟩ := sameBeside_remove fs hpackage hcwd
    exact (detect_eq_of_broken_package hbeside hbroken (isBroken_of_not_hasPath habsent _)).symm
  own_alone t hthere fs' hown := by
    rw [invocationOf?_detect, invocationOf?_detect]
    exact (detect?_congr_of_own hown hthere).symm
  own_content t hthere fs' p h := by
    rw [invocationOf?_detect, invocationOf?_detect]
    exact (detect?_congr_of_own (fun n _ => h.hasPath_eq (join cwd n)) hthere).symm

/-- A project file that breaks off, a directory in the place of the package file, and two files of eslint's own.  A
project file that is whole has a table for ruff. -/
theorem detects_by_files_broken :
    let fs : Files := ⟨[(["pyproject.toml"], .file (Text.Utf8.encode "[tool.ruff")), (["package.json"], .directory),
      (["pyrightconfig.json"], .file []), ([".eslintrc.yml"], .file []), ([".eslintrc.js"], .file [])]⟩
    let whole : Files := ⟨[(["pyproject.toml"], .file (Text.Utf8.encode "[tool.ruff]\nline-length = 100\n"))]⟩
    (detect fs "/" = [standard .pyright (some "/pyrightconfig.json"), standard .eslint (some "/.eslintrc.js")] ∧
      (IsBroken fs "/pyproject.toml" Toml.parse? ∧ detect (fs.remove "/pyproject.toml") "/" = detect fs "/") ∧
        IsBroken fs "/package.json" Json.parse? ∧ detect (fs.remove "/package.json") "/" = detect fs "/") ∧
      ProjectHas whole "/" "ruff" ∧ .ruff ∈ toolsOf (detect whole "/") ∧
        detect whole "/" = [standard .ruff (some "/pyproject.toml")] := by
  intro fs whole
  have hdetect : detect fs "/" =
      [standard .pyright (some "/pyrightconfig.json"), standard .eslint (some "/.eslintrc.js")] := by
    decide +kernel
  have hproject : IsBroken fs "/pyproject.toml" Toml.parse? := by
    intro text htext
    have hread : fs.readText "/pyproject.toml" = .ok "[tool.ruff" := Files.readText_of_locate rfl rfl
    obtain rfl : "[tool.ruff" = text := Except.ok.inj (hread.symm.trans htext)
    decide +kernel
  have hpackage : IsBroken fs "/package.json" Json.parse? := fun text htext => by cases htext
  have hwhole : ProjectHas whole "/" "ruff" := by
    have hread : whole.readText "/pyproject.toml" = .ok ("[tool." ++ "ruff" ++ "]" ++ "\nline-length = 100\n") :=
      Files.readText_of_locate rfl rfl
    obtain ⟨project, hproject⟩ := Option.isSome_iff_exists.1 (by decide +kernel :
      (Toml.parse? ("[tool." ++ "ruff" ++ "]" ++ "\nline-length = 100\n").toList).isSome = true)
    exact projectHas_of_header .ruff hread hproject
  exact ⟨⟨hdetect, ⟨hproject, (detects_by_files fs "/").remove_project hproject (by decide +kernel)⟩, hpackage,
    (detects_by_files fs "/").remove_package hpackage (by decide +kernel)⟩, hwhole,
    (detects_by_files whole "/").ruff_iff.2 (.inr hwhole), by decide +kernel⟩

end Detection

end LintGloss
