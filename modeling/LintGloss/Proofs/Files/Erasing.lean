import LintGloss.Proofs.Files.Writing
/-!
# Erasing files

Where a place is emptied, nothing beside it changes (`holds?_erase`).  A path that never goes up again leads through its
own names only, so that it leads where it led if the place is not on its way (`locate_erase`).
-/

namespace LintGloss

/-! ## The names of a path -/

namespace Path

/-- The parts that lead on to an entry; the others stay where they are. -/
def namesOf (parts : List String) : List String := parts.filter fun part => part ≠ "" ∧ part ≠ "."

theorem namesOf_cons (part : String) (parts : List String) :
    namesOf (part :: parts) = namesOf [part] ++ namesOf parts := by
  rw [namesOf, namesOf, namesOf, ← List.filter_append, List.singleton_append]

def names (path : String) : List String := namesOf (split path)

theorem cut_slash : ∀ s t : List Char, cut (s ++ '/' :: t) = cut s ++ cut t
  | [], t => rfl
  | c :: s, t => by
    obtain ⟨part, more, hcut⟩ := List.exists_cons_of_ne_nil (cut_ne_nil s)
    rw [List.cons_append, cut, cut, cut_slash s t, hcut]
    by_cases hc : c = '/'
    · rw [if_pos hc, if_pos hc]
      rfl
    · rw [if_neg hc, if_neg hc]
      rfl

theorem cut_of_notMem : ∀ {s : List Char}, '/' ∉ s → cut s = [s]
  | [], _ => rfl
  | c :: s, h => by
    obtain ⟨hc, hs⟩ := not_or.1 (mt List.mem_cons.2 h)
    rw [cut, if_neg (Ne.symm hc), cut_of_notMem hs]

/-- The parts of a path are those of its directory, with its name behind them. -/
theorem exists_split_join (cwd : String) {name : String} (hname : '/' ∉ name.toList) :
    ∃ parts, split (join cwd name) = parts ++ [name] ∧ namesOf parts = names cwd ∧
      (".." ∉ split cwd → ".." ∉ parts) := by
  have hrelative : name.toList.head? ≠ some '/' := fun h => hname (List.mem_of_mem_head? h)
  rw [join, if_neg hrelative]
  by_cases hslash : cwd.toList.getLast? = some '/'
  · obtain ⟨s, hs⟩ := List.getLast?_eq_some_iff.1 hslash
    have hcwd : split cwd = (cut s).map String.ofList ++ [""] := by
      rw [split, hs, cut_slash, List.map_append]
      rfl
    refine ⟨(cut s).map String.ofList, ?_, ?_, fun h hmem => h ?_⟩
    · rw [if_pos hslash, split, String.toList_append, hs, List.append_assoc]
      simp [cut_slash, cut_of_notMem hname]
    · simp [names, namesOf, hcwd]
    · rw [hcwd]
      exact List.mem_append_left _ hmem
  · refine ⟨split cwd, ?_, rfl, id⟩
    rw [if_neg hslash, split, String.toList_append, String.toList_append, List.append_assoc]
    have hbar : "/".toList ++ name.toList = '/' :: name.toList := rfl
    rw [hbar, cut_slash, cut_of_notMem hname, List.map_append, split]
    simp

theorem names_join (cwd : String) {name : String} (hname : '/' ∉ name.toList) (hn : isName name = true) :
    names (join cwd name) = names cwd ++ [name] := by
  obtain ⟨parts, hsplit, hparts, -⟩ := exists_split_join cwd hname
  have hproper : name ≠ "" ∧ name ≠ "." ∧ name ≠ ".." := by simpa [isName] using hn
  rw [names, hsplit, namesOf, List.filter_append, ← namesOf, hparts]
  simp [hproper]

theorem up_notMem_split_join {cwd name : String} (hname : '/' ∉ name.toList) (hn : isName name = true)
    (hcwd : ".." ∉ split cwd) : ".." ∉ split (join cwd name) := by
  obtain ⟨parts, hsplit, -, hup⟩ := exists_split_join cwd hname
  have hproper : name ≠ "" ∧ name ≠ "." ∧ name ≠ ".." := by simpa [isName] using hn
  rw [hsplit, List.mem_append, List.mem_singleton]
  rintro (h | h)
  · exact hup hcwd h
  · exact hproper.2.2 h.symm

end Path

namespace Files

open LintGloss.Path (namesOf namesOf_cons names)

variable {fs : Files} {p q r : Place} {part : String} {parts : List String} {path : String}

/-! ## What stands where -/

theorem lookup_filter_prefix (es : List (Place × Entry)) (r q : Place) :
    (es.filter fun x => !r.isPrefixOf x.1).lookup q = if r <+: q then none else es.lookup q := by
  induction es with
  | nil => simp
  | cons x es ih =>
    obtain ⟨place, e⟩ := x
    by_cases hx : r <+: place
    · rw [List.filter_cons_of_neg (by simpa using hx), ih]
      by_cases hq : q = place
      · subst hq
        simp [hx]
      · simp [List.lookup_cons, beq_false_of_ne hq]
    · have hout : r.isPrefixOf place = false := by simpa [← List.isPrefixOf_iff_prefix] using hx
      rw [List.filter_cons_of_pos (by simp [hout])]
      by_cases hq : q = place
      · subst hq
        simp [hx]
      · simp [List.lookup_cons, beq_false_of_ne hq, ih]

/-- **A place is emptied with all places below it, and nothing else.** -/
theorem holds?_erase (fs : Files) (hr : r ≠ []) (q : Place) :
    (fs.erase r).holds? q = if r <+: q then none else fs.holds? q := by
  by_cases hq : q = []
  · subst hq
    simp [holds?, hr]
  · simp only [holds?, if_neg hq, erase, lookup_filter_prefix]

/-! ## Ways that lead on -/

theorem step_eq_ok (h : fs.step p part = .ok q) (hup : part ≠ "..") :
    q = p ++ namesOf [part] ∧ (fs.holds? q).isSome := by
  unfold step at h
  split at h
  · cases h
  · cases h
  · rename_i hdir
    by_cases hstay : part = "" ∨ part = "."
    · rw [if_pos hstay] at h
      obtain rfl := Except.ok.inj h
      exact ⟨by rcases hstay with rfl | rfl <;> simp [namesOf], by simp [hdir]⟩
    · rw [if_neg hstay, if_neg hup] at h
      have hname := not_or.1 hstay
      split at h
      · cases h
      · split at h
        · rename_i hthere
          obtain rfl := Except.ok.inj h
          exact ⟨by simp [namesOf, hname], hthere⟩
        · cases h

theorem step_erase (hr : r ≠ []) (h : ¬ r <+: p ++ namesOf [part]) :
    (fs.erase r).step p part = fs.step p part := by
  have hp : ¬ r <+: p := fun hp => h (hp.trans (List.prefix_append _ _))
  unfold step
  rw [holds?_erase fs hr p, if_neg hp]
  by_cases hstay : part = "" ∨ part = "."
  · simp [hstay]
  · have hname := not_or.1 hstay
    have hnext : ¬ r <+: p ++ [part] := by simpa [namesOf, hname] using h
    rw [holds?_erase fs hr (p ++ [part]), if_neg hnext]

theorem foldlM_step_eq_ok : ∀ {parts : List String} {p : Place}, ".." ∉ parts → (fs.holds? p).isSome →
    parts.foldlM fs.step p = .ok q → q = p ++ namesOf parts ∧ (fs.holds? q).isSome
  | [], p, _, hp, h => by
    obtain rfl : p = q := by simpa [pure, Except.pure] using h
    exact ⟨by simp [namesOf], hp⟩
  | part :: parts, p, hup, _, h => by
    obtain ⟨hpart, hparts⟩ := not_or.1 (mt List.mem_cons.2 hup)
    rw [List.foldlM_cons] at h
    obtain ⟨next, hnext, h⟩ := bind_eq_ok_iff.1 h
    obtain ⟨rfl, hthere⟩ := step_eq_ok hnext (Ne.symm hpart)
    obtain ⟨hq, hheld⟩ := foldlM_step_eq_ok hparts hthere h
    exact ⟨by rw [hq, List.append_assoc, ← namesOf_cons], hheld⟩

theorem foldlM_step_erase (hr : r ≠ []) : ∀ {parts : List String} {p : Place}, ".." ∉ parts →
    ¬ r <+: p ++ namesOf parts → parts.foldlM (fs.erase r).step p = parts.foldlM fs.step p
  | [], _, _, _ => rfl
  | part :: parts, p, hup, h => by
    obtain ⟨hpart, hparts⟩ := not_or.1 (mt List.mem_cons.2 hup)
    rw [namesOf_cons, ← List.append_assoc] at h
    have hnext : ¬ r <+: p ++ namesOf [part] := fun hp => h (hp.trans (List.prefix_append _ _))
    rw [List.foldlM_cons, List.foldlM_cons, step_erase hr hnext]
    cases hstep : fs.step p part with
    | error e => rfl
    | ok q =>
      rw [← (step_eq_ok hstep (Ne.symm hpart)).1] at h
      exact foldlM_step_erase hr hparts h

theorem locate_eq_ok_iff : fs.locate path = .ok p ↔ Path.fault? path = none ∧ fs.walk (Path.split path) = .ok p := by
  cases hfault : Path.fault? path with
  | none => simp [locate_eq_walk hfault]
  | some e => simp [locate, locateIn, hfault]

/-- **A path that never goes up leads to its own names**, and something is there. -/
theorem locate_eq_ok (h : fs.locate path = .ok p) (hup : ".." ∉ Path.split path) :
    p = names path ∧ (fs.holds? p).isSome := by
  have hwalk := foldlM_step_eq_ok hup (by simp [holds?_nil]) (locate_eq_ok_iff.1 h).2
  rwa [List.nil_append] at hwalk

theorem locate_erase (hr : r ≠ []) (hup : ".." ∉ Path.split path) (h : ¬ r <+: names path) :
    (fs.erase r).locate path = fs.locate path := by
  cases hfault : Path.fault? path with
  | some e => simp only [locate, locateIn, hfault]
  | none =>
    rw [locate_eq_walk hfault, locate_eq_walk hfault]
    exact foldlM_step_erase hr hup (by rwa [List.nil_append])

theorem hasPath_erase (hr : r ≠ []) (hup : ".." ∉ Path.split path) (h : ¬ r <+: names path) :
    (fs.erase r).hasPath path = fs.hasPath path := by
  rw [hasPath, hasPath, locate_erase hr hup h]

theorem readText_erase (hr : r ≠ []) (hup : ".." ∉ Path.split path) (h : ¬ r <+: names path) :
    (fs.erase r).readText path = fs.readText path := by
  unfold readText
  rw [locate_erase hr hup h]
  cases hlocate : fs.locate path with
  | error e => rfl
  | ok p =>
    simp only [bind, Except.bind]
    rw [holds?_erase fs hr, if_neg ((locate_eq_ok hlocate hup).1 ▸ h)]

theorem hasPath_erase_self (hr : r ≠ []) (hup : ".." ∉ Path.split path) (h : r <+: names path) :
    (fs.erase r).hasPath path = false := by
  rw [hasPath]
  cases hlocate : (fs.erase r).locate path with
  | error e => rfl
  | ok p =>
    obtain ⟨rfl, hthere⟩ := locate_eq_ok hlocate hup
    rw [holds?_erase fs hr, if_pos h] at hthere
    cases hthere

end Files

end LintGloss
