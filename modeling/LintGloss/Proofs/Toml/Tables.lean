import LintGloss.Proofs.Text.Front
import LintGloss.Toml.Parser
/-!
# Tables of TOML documents

No line takes away a table that the lines before it have made (`Draft.lines?_keeps`), so that the table of the header
that a document starts with is in the document, whatever follows it (`exists_table_of_header`).
-/

namespace LintGloss.Toml

/-! ## Tables that stay -/

/-- Each key of a path is that of a table in the table before it. -/
def HasTable : List String → Entries → Prop
  | [], _ => True
  | key :: path, entries => ∃ origin sub, entries.lookup key = some (.table origin sub) ∧ HasTable path sub

/-- No table is lost from the one to the other. -/
def Keeps (entries entries' : Entries) : Prop := ∀ path, HasTable path entries → HasTable path entries'

variable {entries entries' entries'' : Entries}

theorem Keeps.refl (entries : Entries) : Keeps entries entries := fun _ h => h

theorem Keeps.trans (h : Keeps entries entries') (h' : Keeps entries' entries'') : Keeps entries entries'' :=
  fun path hpath => h' path (h path hpath)

theorem lookup_cons (k key : String) (v : Toml) (entries : Entries) :
    ((key, v) :: entries).lookup k = if k = key then some v else entries.lookup k := by
  by_cases h : k = key <;> simp [List.lookup_cons, h, beq_false_of_ne]

theorem lookup_put (key k : String) (v : Toml) : ∀ entries : Entries,
    (put key v entries).lookup k = if k = key then some v else entries.lookup k
  | [] => lookup_cons k key v []
  | (key', w) :: rest => by
    rw [put]
    by_cases h : key' = key
    · subst h
      rw [if_pos rfl, lookup_cons, lookup_cons]
      split <;> rfl
    · rw [if_neg h, lookup_cons, lookup_cons, lookup_put key k v rest]
      by_cases hk : k = key'
      · subst hk
        simp [h]
      · simp [hk]

theorem keeps_put_of_not_table {key : String} (v : Toml)
    (h : ∀ origin sub, entries.lookup key ≠ some (.table origin sub)) : Keeps entries (put key v entries) := by
  intro path hpath
  cases path with
  | nil => trivial
  | cons k path =>
    obtain ⟨origin, sub, hlookup, hsub⟩ := hpath
    have hk : k ≠ key := fun hk => h origin sub (hk ▸ hlookup)
    exact ⟨origin, sub, by rw [lookup_put, if_neg hk, hlookup], hsub⟩

theorem keeps_put_table {key : String} {origin origin' : Origin} {sub sub' : Entries}
    (h : entries.lookup key = some (.table origin sub)) (hsub : Keeps sub sub') :
    Keeps entries (put key (.table origin' sub') entries) := by
  intro path hpath
  cases path with
  | nil => trivial
  | cons k path =>
    obtain ⟨origin'', sub'', hlookup, hpath⟩ := hpath
    by_cases hk : k = key
    · subst hk
      obtain ⟨rfl, rfl⟩ := Toml.table.inj (Option.some.inj (h.symm.trans hlookup))
      exact ⟨origin', sub', by rw [lookup_put, if_pos rfl], hsub path hpath⟩
    · exact ⟨origin'', sub'', by rw [lookup_put, if_neg hk, hlookup], hpath⟩

/-- A change at the end of a path keeps what it keeps there. -/
theorem alter?_keeps {dotted : Bool} {change : Bool → Entries → Option Entries}
    (hchange : ∀ here sub sub', change here sub = some sub' → Keeps sub sub') :
    ∀ {path : List String} {here : Bool} {entries entries' : Entries},
      alter? dotted change path here entries = some entries' → Keeps entries entries'
  | [], here, entries, entries', h => hchange here entries entries' h
  | key :: path, here, entries, entries', h => by
    rw [alter?] at h
    cases hlookup : entries.lookup key with
    | none =>
      rw [hlookup] at h
      obtain ⟨sub, -, h⟩ := Option.bind_eq_some_iff.1 h
      obtain rfl := Option.some.inj h
      exact keeps_put_of_not_table _ (by simp [hlookup])
    | some v =>
      rw [hlookup] at h
      cases v with
      | value | inline => cases h
      | table origin sub =>
        obtain ⟨-, h⟩ := Option.ite_none_left_eq_some.1 h
        obtain ⟨sub', hsub, h⟩ := Option.bind_eq_some_iff.1 h
        obtain rfl := Option.some.inj h
        exact keeps_put_table hlookup (alter?_keeps hchange hsub)
      | tables last =>
        obtain ⟨last', -, h⟩ := Option.bind_eq_some_iff.1 h
        obtain rfl := Option.some.inj h
        exact keeps_put_of_not_table _ (by simp [hlookup])

variable {path header : List String} {key : String} {v : Toml}

theorem define?_keeps (h : define? path key v entries = some entries') : Keeps entries entries' := by
  refine alter?_keeps (fun here sub sub' hsub => ?_) h
  obtain ⟨hnew, hsub⟩ := Option.ite_none_left_eq_some.1 hsub
  obtain rfl := Option.some.inj hsub
  have hfree : sub.lookup key = none := by
    rw [Bool.or_eq_true, not_or] at hnew
    exact Option.not_isSome_iff_eq_none.1 hnew.2
  exact keeps_put_of_not_table _ (by simp [hfree])

theorem defineUnder?_keeps (h : defineUnder? header path key v entries = some entries') : Keeps entries entries' :=
  alter?_keeps (fun _ _ _ => define?_keeps) h

theorem header?_keeps (h : header? path key entries = some entries') : Keeps entries entries' := by
  refine alter?_keeps (fun here sub sub' hsub => ?_) h
  cases hlookup : sub.lookup key with
  | none =>
    simp only [hlookup] at hsub
    obtain rfl := Option.some.inj hsub
    exact keeps_put_of_not_table _ (by simp [hlookup])
  | some w =>
    simp only [hlookup] at hsub
    cases w with
    | value | inline | tables => cases hsub
    | table origin inner =>
      cases origin with
      | header | dotted => cases hsub
      | implied =>
        obtain rfl := Option.some.inj hsub
        exact keeps_put_table hlookup (.refl inner)

theorem arrayHeader?_keeps (h : arrayHeader? path key entries = some entries') : Keeps entries entries' := by
  refine alter?_keeps (fun here sub sub' hsub => ?_) h
  have hfree : ∀ origin inner, sub.lookup key ≠ some (.table origin inner) := by
    intro origin inner hlookup
    simp only [hlookup] at hsub
    cases hsub
  cases hlookup : sub.lookup key with
  | none =>
    simp only [hlookup] at hsub
    exact Option.some.inj hsub ▸ keeps_put_of_not_table _ hfree
  | some w =>
    simp only [hlookup] at hsub
    cases w with
    | value | inline | table => cases hsub
    | tables => exact Option.some.inj hsub ▸ keeps_put_of_not_table _ hfree

/-! ## Lines -/

namespace Draft

variable {d d' : Draft} {s rest : List Char}

theorem header?_keeps (h : d.header? s = some (d', rest)) : Keeps d.root d'.root := by
  obtain ⟨⟨path, key, s⟩, -, h⟩ := Option.bind_eq_some_iff.1 h
  obtain ⟨root, hroot, h⟩ := Option.bind_eq_some_iff.1 h
  obtain ⟨s, -, h⟩ := Option.bind_eq_some_iff.1 h
  obtain ⟨rfl, -⟩ := Prod.mk.inj (Option.some.inj h)
  exact Toml.header?_keeps hroot

theorem arrayHeader?_keeps (h : d.arrayHeader? s = some (d', rest)) : Keeps d.root d'.root := by
  obtain ⟨⟨path, key, s⟩, -, h⟩ := Option.bind_eq_some_iff.1 h
  obtain ⟨root, hroot, h⟩ := Option.bind_eq_some_iff.1 h
  obtain ⟨s, -, h⟩ := Option.bind_eq_some_iff.1 h
  obtain ⟨s, -, h⟩ := Option.bind_eq_some_iff.1 h
  obtain ⟨rfl, -⟩ := Prod.mk.inj (Option.some.inj h)
  exact Toml.arrayHeader?_keeps hroot

theorem pair?_keeps (h : d.pair? s = some (d', rest)) : Keeps d.root d'.root := by
  obtain ⟨⟨path, key, s⟩, -, h⟩ := Option.bind_eq_some_iff.1 h
  obtain ⟨s, -, h⟩ := Option.bind_eq_some_iff.1 h
  obtain ⟨⟨v, s⟩, -, h⟩ := Option.bind_eq_some_iff.1 h
  obtain ⟨root, hroot, h⟩ := Option.bind_eq_some_iff.1 h
  obtain ⟨rfl, -⟩ := Prod.mk.inj (Option.some.inj h)
  exact defineUnder?_keeps hroot

theorem line?_keeps (h : d.line? s = some (d', rest)) : Keeps d.root d'.root := by
  unfold line? at h
  split at h
  case h_4 => exact arrayHeader?_keeps h
  case h_5 => exact header?_keeps h
  case h_6 => exact pair?_keeps h
  -- there is nothing on the line, or a comment
  all_goals
    obtain ⟨rfl, -⟩ := Prod.mk.inj (Option.some.inj h)
    exact .refl _

/-- **Lines keep the tables that are there.** -/
theorem lines?_keeps : ∀ {fuel : Nat} {d : Draft} {s : List Char}, d.lines? fuel s = some d' → Keeps d.root d'.root
  | 0, d, s, h => by
    obtain ⟨-, h⟩ := Option.ite_none_right_eq_some.1 h
    exact Option.some.inj h ▸ .refl _
  | fuel + 1, d, s, h => by
    rw [lines?] at h
    split at h
    · exact Option.some.inj h ▸ .refl _
    · obtain ⟨⟨d'', rest⟩, hline, h⟩ := Option.bind_eq_some_iff.1 h
      obtain ⟨rest', -, h⟩ := Option.bind_eq_some_iff.1 h
      exact (line?_keeps hline).trans (lines?_keeps h)

end Draft

/-! ## The header at the front -/

/-- A part of a key that needs no quotes. -/
def IsBare (word : List Char) : Prop := word ≠ [] ∧ ∀ c ∈ word, isKeyChar c = true

variable {top name rest : List Char}

theorem isBlank_of_isKeyChar {c : Char} (h : isKeyChar c = true) : isBlank c = false := by
  by_contra hblank
  simp only [isBlank, Bool.not_eq_false, Bool.or_eq_true, beq_iff_eq] at hblank
  rcases hblank with rfl | rfl <;> exact absurd h (by decide)

theorem dropBlanks_of_head {s : List Char} (h : ∀ c ∈ s.head?, isBlank c = false) : dropBlanks s = s := by
  cases s with
  | nil => rfl
  | cons c s => exact List.dropWhile_cons_of_neg (by simp [h c rfl])

theorem IsBare.dropBlanks (hname : IsBare name) : dropBlanks (name ++ rest) = name ++ rest := by
  obtain ⟨hne, hchars⟩ := hname
  obtain ⟨c, cs, rfl⟩ := List.exists_cons_of_ne_nil hne
  refine dropBlanks_of_head fun c' hc' => ?_
  obtain rfl := Option.some.inj hc'
  exact isBlank_of_isKeyChar (hchars c List.mem_cons_self)

theorem IsBare.keyPart? (hname : IsBare name) (hrest : ∀ c ∈ rest.head?, isKeyChar c = false) :
    keyPart? (name ++ rest) = some (String.ofList name, rest) := by
  obtain ⟨hne, hchars⟩ := hname
  have hcut : (name ++ rest).span isKeyChar = (name, rest) := Text.span_eq_iff.2 ⟨rfl, hchars, hrest⟩
  have hquote : ∀ q ∈ (name ++ rest).head?, isKeyChar q = true := by
    obtain ⟨c, cs, rfl⟩ := List.exists_cons_of_ne_nil hne
    intro q hq
    exact hchars q (Option.some.inj hq ▸ List.mem_cons_self)
  unfold Toml.keyPart?
  split
  · rename_i heq
    exact absurd (hquote '"' (by rw [heq]; rfl)) (by decide)
  · rename_i heq
    exact absurd (hquote '\'' (by rw [heq]; rfl)) (by decide)
  · rw [hcut]
    exact if_neg hne

theorem key?_bare (htop : IsBare top) (hname : IsBare name) :
    key? (top ++ '.' :: (name ++ ']' :: rest)) = some ([String.ofList top], String.ofList name, ']' :: rest) := by
  have hdot : dropBlanks ('.' :: (name ++ ']' :: rest)) = '.' :: (name ++ ']' :: rest) :=
    dropBlanks_of_head (by simp [isBlank])
  have hend : dropBlanks (']' :: rest) = ']' :: rest := dropBlanks_of_head (by simp [isBlank])
  have hlast (more : Nat) :
      keyParts? (more + 1) (name ++ ']' :: rest) = some ([], String.ofList name, ']' :: rest) := by
    rw [keyParts?, hname.keyPart? (by simp [isKeyChar])]
    simp only [Option.bind_eq_bind, Option.bind_some, hend]
    rfl
  rw [key?, partLimit, keyParts?, htop.keyPart? (by simp [isKeyChar])]
  simp only [Option.bind_eq_bind, Option.bind_some, hdot, hname.dropBlanks, hlast]

/-- What is read after one header with two keys. -/
def opened (top name : String) : Draft := ⟨[(top, .table .implied [(name, .table .header [])])], [top, name]⟩

theorem hasTable_opened (top name : String) : HasTable [top, name] (opened top name).root :=
  ⟨.implied, [(name, .table .header [])], by simp [opened], .header, [], by simp, trivial⟩

theorem line?_header (htop : IsBare top) (hname : IsBare name) :
    Draft.line? {} ('[' :: (top ++ '.' :: (name ++ ']' :: rest))) =
      some (opened (String.ofList top) (String.ofList name), rest) := by
  have hheader : Draft.header? {} (top ++ '.' :: (name ++ ']' :: rest)) =
      some (opened (String.ofList top) (String.ofList name), rest) := by
    rw [Draft.header?, htop.dropBlanks, key?_bare htop hname]
    rfl
  obtain ⟨c, cs, rfl⟩ := List.exists_cons_of_ne_nil htop.1
  have hc : c ≠ '[' := by
    rintro rfl
    exact absurd (htop.2 '[' List.mem_cons_self) (by decide)
  rw [← hheader]
  exact Draft.line?.eq_5 {} _ (by simp [hc])

theorem unifyLines?_append : ∀ {front : List Char}, (∀ c ∈ front, c ≠ '\r') → ∀ rest : List Char,
    unifyLines? (front ++ rest) = (unifyLines? rest).map (front ++ ·)
  | [], _, rest => by simp
  | c :: front, h, rest => by
    have hc : c ≠ '\r' := h c List.mem_cons_self
    have hfront := unifyLines?_append (fun c hc => h c (List.mem_cons_of_mem _ hc)) rest
    rw [List.cons_append, unifyLines?, if_neg hc, hfront, Option.map_map]
    · rfl
    · simp [hc]

theorem unifyLines?_header (htop : IsBare top) (hname : IsBare name) :
    unifyLines? ('[' :: (top ++ '.' :: (name ++ ']' :: rest))) =
      (unifyLines? rest).map fun s => '[' :: (top ++ '.' :: (name ++ ']' :: s)) := by
  have hkey (c : Char) (hc : isKeyChar c = true) : c ≠ '\r' := by
    rintro rfl
    exact absurd hc (by decide)
  have hfront : ∀ c ∈ '[' :: (top ++ '.' :: (name ++ [']'])), c ≠ '\r' := by
    simp only [List.mem_cons, List.mem_append]
    rintro c (rfl | hc | rfl | hc | rfl | hc)
    · decide
    · exact hkey c (htop.2 c hc)
    · decide
    · exact hkey c (hname.2 c hc)
    · decide
    · cases hc
  simpa using unifyLines?_append hfront rest

/-- **The table of the header at the front is in the document**, whatever follows. -/
theorem exists_table_of_header (htop : IsBare top) (hname : IsBare name) {project : Toml}
    (h : parse? ('[' :: (top ++ '.' :: (name ++ ']' :: rest))) = some project) :
    ∃ tables table, project.get? (String.ofList top) = some tables ∧ tables.get? (String.ofList name) = some table ∧
      table.isTable = true := by
  rw [parse?, if_neg (by simp), unifyLines?_header htop hname] at h
  obtain ⟨s, hs, h⟩ := Option.bind_eq_some_iff.1 h
  obtain ⟨d, hd, h⟩ := Option.bind_eq_some_iff.1 h
  obtain rfl := Option.some.inj h
  obtain ⟨rest', -, rfl⟩ := Option.map_eq_some_iff.1 hs
  -- the header is the first line, and the lines behind it keep its table
  rw [List.length_cons, Draft.lines?, if_neg (List.cons_ne_nil _ _), dropBlanks_of_head (by simp [isBlank]),
    line?_header htop hname] at hd
  obtain ⟨after, -, hd⟩ := Option.bind_eq_some_iff.1 ((Option.bind_some _ _).symm.trans hd)
  obtain ⟨origin, sub, htables, origin', sub', htable, -⟩ := Draft.lines?_keeps hd _ (hasTable_opened _ _)
  exact ⟨_, _, htables, htable, rfl⟩

end LintGloss.Toml
