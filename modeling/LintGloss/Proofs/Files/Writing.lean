import LintGloss.Files.Path
import LintGloss.Proofs.Text.Utf8
import Mathlib.Data.List.Basic
/-!
# Writing files

A file that is written stands at one place, whose directory was there before.  Nothing is taken away (`Grows`), so that
every path which led somewhere still leads there; and where a file can be written, its path leads as soon as the place
holds anything (`locate_of_target`).
-/

namespace LintGloss

/-! ## The parts of a path -/

namespace Path

theorem cut_ne_nil (s : List Char) : cut s ≠ [] := by
  fun_cases cut s <;> simp

/-- Only a slash at its end leaves a text with nothing behind its last slash. -/
theorem getLast?_cut_ne {s : List Char} (hs : s ≠ []) (hslash : s.getLast? ≠ some '/') :
    (cut s).getLast? ≠ some [] := by
  induction s with
  | nil => exact absurd rfl hs
  | cons c rest ih =>
    cases rest with
    | nil =>
      have hc : c ≠ '/' := fun hc => hslash (by rw [hc]; rfl)
      simp [cut, hc]
    | cons d rest =>
      have ih := ih (List.cons_ne_nil d rest) (by rwa [List.getLast?_cons_cons] at hslash)
      rw [cut]
      obtain ⟨part, more, hcut⟩ := List.exists_cons_of_ne_nil (cut_ne_nil (d :: rest))
      rw [hcut] at ih ⊢
      by_cases hc : c = '/'
      · rwa [if_pos hc, List.getLast?_cons_cons]
      · rw [if_neg hc]
        cases more with
        | nil => simp
        | cons next more => rwa [List.getLast?_cons_cons] at ih ⊢

/-- Without a slash at the end all parts of a path count. -/
theorem stem_eq_split {path : String} (hne : path ≠ "") (hslash : path.toList.getLast? ≠ some '/') :
    stem path = split path := by
  have hs : path.toList ≠ [] := by simpa using hne
  have hlast : (split path).getLast? ≠ some "" := by
    rw [split, List.getLast?_map]
    intro h
    obtain ⟨part, hpart, hempty⟩ := Option.map_eq_some_iff.1 h
    have hnil : part = [] := by simpa using hempty
    exact getLast?_cut_ne hs hslash (hnil ▸ hpart)
  rw [stem]
  cases hrev : (split path).reverse with
  | nil => rw [List.reverse_eq_nil_iff.1 hrev]; rfl
  | cons last before =>
    have hne : last ≠ "" := by
      rintro rfl
      exact hlast (by rw [List.getLast?_eq_head?_reverse, hrev]; rfl)
    rw [List.dropWhile_cons_of_neg (by simpa using hne), ← hrev, List.reverse_reverse]

/-- A path is walked from the root, whether it says so or not. -/
theorem split_join_root (path : String) :
    split (join "/" path) = split path ∨ split (join "/" path) = "" :: split path := by
  by_cases h : path.toList.head? = some '/'
  · exact .inl (by rw [join, if_pos h])
  · refine .inr ?_
    rw [join, if_neg h, if_pos (by decide), split, String.toList_append]
    rfl

end Path

namespace Files

variable {fs fs' : Files} {p q : Place}

/-! ## Walking -/

theorem walk_append (parts : List String) (part : String) :
    fs.walk (parts ++ [part]) = (fs.walk parts).bind fun p => fs.step p part := by
  rw [walk, List.foldlM_append, walk]
  simp only [List.foldlM_cons, List.foldlM_nil, bind_pure]
  rfl

theorem locate_eq_walk {path : String} (h : Path.fault? path = none) : fs.locate path = fs.walk (Path.split path) := by
  rw [locate, locateIn, h]
  rcases Path.split_join_root path with hsplit | hsplit
  · rw [hsplit]
  · rw [hsplit, walk, List.foldlM_cons]
    have hroot : fs.step [] "" = .ok [] := by simp [step, holds?_nil]
    rw [hroot]
    rfl

/-! ## Growing -/

/-- Nothing is taken away: directories stay, and what holds something goes on to do so. -/
structure Grows (fs fs' : Files) : Prop where
  directory : ∀ p, fs.holds? p = some .directory → fs'.holds? p = some .directory
  isSome : ∀ p, (fs.holds? p).isSome → (fs'.holds? p).isSome

theorem Grows.refl (fs : Files) : fs.Grows fs := ⟨fun _ h => h, fun _ h => h⟩

theorem Grows.trans {fs'' : Files} (h : fs.Grows fs') (h' : fs'.Grows fs'') : fs.Grows fs'' :=
  ⟨fun p hp => h'.directory p (h.directory p hp), fun p hp => h'.isSome p (h.isSome p hp)⟩

theorem Grows.step (h : fs.Grows fs') {part : String} (hstep : fs.step p part = .ok q) : fs'.step p part = .ok q := by
  unfold Files.step at hstep ⊢
  split at hstep
  · cases hstep
  · cases hstep
  · rename_i hdir
    -- the step goes on from a directory, which has stayed
    rw [h.directory p hdir]
    dsimp only
    by_cases hstay : part = "" ∨ part = "."
    · rwa [if_pos hstay] at hstep ⊢
    · rw [if_neg hstay] at hstep ⊢
      by_cases hup : part = ".."
      · rwa [if_pos hup] at hstep ⊢
      · rw [if_neg hup] at hstep ⊢
        by_cases hlong : Path.nameLimit < part.utf8ByteSize
        · rw [if_pos hlong] at hstep
          cases hstep
        · rw [if_neg hlong] at hstep ⊢
          by_cases hthere : (fs.holds? (p ++ [part])).isSome
          · rw [if_pos hthere] at hstep
            rwa [if_pos (h.isSome _ hthere)]
          · rw [if_neg hthere] at hstep
            cases hstep

theorem Grows.walk (h : fs.Grows fs') {parts : List String} (hp : fs.walk parts = .ok p) : fs'.walk parts = .ok p :=
  foldlM_of_steps (fun _ _ _ hstep => h.step hstep) hp

/-- **Paths go on to lead where they led.** -/
theorem Grows.locate (h : fs.Grows fs') {path : String} (hp : fs.locate path = .ok p) : fs'.locate path = .ok p := by
  unfold Files.locate locateIn at hp ⊢
  split at hp
  · cases hp
  · exact h.walk hp

theorem Grows.hasPath (h : fs.Grows fs') {path : String} (hp : fs.hasPath path = true) : fs'.hasPath path = true := by
  unfold Files.hasPath at hp ⊢
  cases hlocate : fs.locate path with
  | error e =>
    rw [hlocate] at hp
    cases hp
  | ok p =>
    rw [h.locate hlocate]
    rfl

/-- What is known of the place where a file can be written. -/
structure IsTarget (fs : Files) (path : String) (p : Place) : Prop where
  fault?_eq : Path.fault? path = none
  holds?_ne : fs.holds? p ≠ some .directory
  /-- The last part of the path is a name in a directory to which the others lead. -/
  exists_name : ∃ before name directory, Path.split path = before ++ [name] ∧ Path.isName name = true ∧
    name.utf8ByteSize ≤ Path.nameLimit ∧ fs.walk before = .ok directory ∧
    fs.holds? directory = some .directory ∧ p = directory ++ [name]

theorem child_eq_ok {directory : Place} {name : String} {slash : Bool} (h : fs.child directory name slash = .ok p) :
    fs.holds? directory = some .directory ∧ slash = false ∧ name.utf8ByteSize ≤ Path.nameLimit ∧
      fs.holds? p ≠ some .directory ∧ p = directory ++ [name] := by
  unfold child at h
  split at h
  · cases h
  · split at h
    · cases h
    · split at h
      · cases h
      · split at h
        · cases h
        · rename_i hdir hslash hlong hheld
          obtain rfl := Except.ok.inj h
          exact ⟨by simpa using hdir, by simpa using hslash, Nat.le_of_not_lt hlong, hheld, rfl⟩

theorem isTarget_of_target {path : String} (h : fs.target path = .ok p) : fs.IsTarget path p := by
  unfold target at h
  split at h
  · cases h
  · rename_i hfault
    dsimp only at h
    split at h
    · cases h
    · rename_i name hname
      split at h
      · rename_i hisName
        obtain ⟨directory, hwalk, hchild⟩ := bind_eq_ok_iff.1 h
        obtain ⟨hdir, hslash, hlong, hheld, hp⟩ := child_eq_ok hchild
        have hne : path ≠ "" := by
          rintro rfl
          cases hname
        -- without a slash at the end the name is the last part of the path
        rw [Path.stem_eq_split hne (by simpa using hslash)] at hname hwalk
        have hsplit : Path.split path = (Path.split path).dropLast ++ [name] :=
          (List.dropLast_append_getLast? name hname).symm
        exact ⟨hfault, hheld, _, name, directory, hsplit, hisName, hlong, hwalk, hdir, hp⟩
      · obtain ⟨_, _, hbad⟩ := bind_eq_ok_iff.1 h
        cases hbad

theorem IsTarget.ne_nil {path : String} (h : fs.IsTarget path p) : p ≠ [] := by
  obtain ⟨_, _, _, -, -, -, -, -, rfl⟩ := h.exists_name
  simp

/-- **Where a file can be written, its path leads** as soon as something is there. -/
theorem IsTarget.locate {path : String} (h : fs.IsTarget path p) (hgrows : fs.Grows fs') (hp : (fs'.holds? p).isSome) :
    fs'.locate path = .ok p := by
  obtain ⟨before, name, directory, hsplit, hisName, hlong, hwalk, hdir, rfl⟩ := h.exists_name
  rw [locate_eq_walk h.fault?_eq, hsplit, walk_append, hgrows.walk hwalk]
  have hname : name ≠ "" ∧ name ≠ "." ∧ name ≠ ".." := by simpa [Path.isName] using hisName
  show fs'.step directory name = _
  unfold Files.step
  rw [hgrows.directory _ hdir]
  dsimp only
  rw [if_neg (not_or.2 ⟨hname.1, hname.2.1⟩), if_neg hname.2.2, if_neg (Nat.not_lt.2 hlong), if_pos hp]

theorem hasPath_of_locate {path : String} (h : fs.locate path = .ok p) : fs.hasPath path = true := by
  rw [hasPath, h]
  rfl

/-- A text that has been written is read. -/
theorem readText_of_locate {path text : String} (h : fs.locate path = .ok p)
    (hp : fs.holds? p = some (.file (Text.Utf8.encode text))) : fs.readText path = .ok text := by
  rw [readText, bind_eq_ok_iff]
  refine ⟨p, h, ?_⟩
  rw [hp]
  dsimp only
  rw [Text.Utf8.decode?_encode]
  dsimp only
  rw [String.ofList_toList]
  rfl

end Files

end LintGloss
