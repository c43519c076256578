import LintGloss.CommandLine.Parser
import LintGloss.Proofs.Text.Front
import Mathlib.Data.List.Forall2
/-!
# Settings in words

A setting can be written in several ways, with its name or its letter, and with its value in the same word or in the next
one.  Reading takes each of them for the same setting (`readWords_spells`), wherever it stands among others
(`readWords_flatten`).
-/

namespace LintGloss

/-- A setting that is given, with its value if it takes one. -/
inductive Choice
  | config (path : String)
  | tool (name : String)
  | preset (name : String)
  | override
  | pretty
  | logLevel (level : String)
  deriving DecidableEq

namespace Choice

def flag : Choice → String
  | config _ => "--config"
  | tool _ => "--tool"
  | preset _ => "--preset"
  | override => "--override"
  | pretty => "--pretty"
  | logLevel _ => "--log-level"

/-- The flag with a letter.  Where a configuration is written, its path has none. -/
def shortFlag? : Level → Choice → Option String
  | .after .run, config _ | .after .validate, config _ | .after .list, config _ => some "-c"
  | .after .run, tool _ => some "-t"
  | .after _, pretty => some "-p"
  | _, _ => none

def value? : Choice → Option String
  | config v | tool v | preset v | logLevel v => some v
  | override | pretty => none

def setting : Choice → Setting
  | config _ => .config
  | tool _ => .tool
  | preset _ => .preset
  | override => .override
  | pretty => .pretty
  | logLevel _ => .logLevel

/-- What is noted of a setting that has been read. -/
def entry (o : Choice) : Setting × String := (o.setting, o.value?.getD "")

end Choice

/-- The words that say that a setting is given.  A value that is a word of its own must not look like a flag, and one in
the word of its flag may look like anything. -/
inductive Spells (l : Level) (o : Choice) : List String → Prop
  | switch {w : String} : o.value? = none → (w = o.flag ∨ o.shortFlag? l = some w) → Spells l o [w]
  | apart {w v : String} : o.value? = some v → (w = o.flag ∨ o.shortFlag? l = some w) → v.toList.head? ≠ some '-' →
    Spells l o [w, v]
  | joined {v : String} : o.value? = some v → Spells l o [o.flag ++ "=" ++ v]

/-- Whether a setting can be given before the command, or after it. -/
def Level.Takes (l : Level) (o : Choice) : Prop := o.setting ∈ l.settings.map (·.1)

variable {l : Level} {o : Choice} {r : Settings} {given : List (Setting × String)} {s : Setting} {v w : String}

/-! ## Flags -/

theorem Choice.takesValue_setting (o : Choice) : o.setting.takesValue = o.value?.isSome := by cases o <;> rfl

theorem Choice.flag_eq (o : Choice) : o.flag = "--" ++ o.setting.longName := by cases o <;> rfl

theorem Setting.longName_ne (s : Setting) : s.longName.toList ≠ [] := by cases s <;> decide

theorem Setting.eq_notMem_longName (s : Setting) : '=' ∉ s.longName.toList := by cases s <;> decide

theorem Level.ofLongName?_longName (h : s ∈ l.settings.map (·.1)) : l.ofLongName? s.longName = some s := by
  revert h
  cases l with
  | top => cases s <;> decide
  | after word => cases word <;> cases s <;> decide

theorem Choice.exists_letter (hw : o.shortFlag? l = some w) :
    ∃ c, w.toList = ['-', c] ∧ c ≠ '-' ∧ l.ofLetter? c = some o.setting := by
  cases l with
  | top => cases o <;> cases hw
  | after word => cases word <;> cases o <;> cases hw <;> exact ⟨_, rfl, by decide, rfl⟩

/-! ## Settings that have been read -/

/-- Nothing that has been read so far is at fault, and these settings have been given. -/
def Settings.Holds (r : Settings) (given : List (Setting × String)) : Prop := r.settle = .ok { given := given }

theorem Settings.Holds.isWaiting_eq_false (h : r.Holds given) : r.isWaiting = false := by
  obtain ⟨_, _ | ⟨_, _ | _⟩⟩ := r
  · rfl
  · cases h
  · rfl

theorem Settings.add_of_new (hnew : given.lookup s = none) (hallows : s.allows v = true) :
    ({ given := given } : Settings).add s v = .ok { given := (s, v) :: given } := by
  have hhas : ({ given := given } : Settings).has s = false := by rw [has, value?, hnew]; rfl
  rw [add, hhas, hallows]
  rfl

theorem Settings.take_switch (h : r.Holds given) (ho : o.value? = none) :
    r.take o.setting none = ({ given := given } : Settings).add o.setting "" := by
  rw [take, h]
  cases o <;> first | rfl | cases ho

theorem Settings.take_waiting (h : r.Holds given) (ho : o.value? = some v) :
    r.take o.setting none = .ok { given := given, pending := some (o.setting, none) } := by
  rw [take, h]
  cases o <;> first | rfl | cases ho

theorem Settings.take_attached (h : r.Holds given) (v : String) :
    r.take o.setting (some v) = ({ given := given } : Settings).add o.setting v := by
  rw [take, h]
  cases o <;> rfl

/-! ## Words that are read -/

theorem isCommandWord_eq_false (h : w.toList.head? = some '-') : isCommandWord w = false := by
  have hne : ∀ u : String, u.toList.head? ≠ some '-' → w ≠ u := by
    rintro u hu rfl
    exact hu h
  rw [isCommandWord, CommandWord.ofString?]
  · simp [helpWord, hne "help" (by decide)]
  · exact hne "run" (by decide)
  · exact hne "init" (by decide)
  · exact hne "validate" (by decide)
  · exact hne "list" (by decide)

/-- The name of a setting ends at an equals sign. -/
theorem span_longName {rest : List Char} (s : Setting) (hrest : ∀ c ∈ rest.head?, c = '=') :
    (s.longName.toList ++ rest).span (· ≠ '=') = (s.longName.toList, rest) := by
  refine Text.span_eq_iff.2 ⟨rfl, fun c hc => ?_, fun c hc => ?_⟩
  · have hne : c ≠ '=' := fun heq => s.eq_notMem_longName (heq ▸ hc)
    simpa using hne
  · simpa using hrest c hc

theorem Settings.takeLong_longName (hl : l.Takes o) (r : Settings) :
    r.takeLong l o.setting.longName.toList = r.take o.setting none := by
  have hspan : (o.setting.longName.toList ++ []).span (· ≠ '=') = (o.setting.longName.toList, []) :=
    span_longName o.setting (by simp)
  rw [List.append_nil] at hspan
  rw [takeLong, hspan]
  simp only [String.ofList_toList, Level.ofLongName?_longName hl]

theorem Settings.takeLong_joined (hl : l.Takes o) (ho : o.value? = some v) (r : Settings) :
    r.takeLong l (o.setting.longName.toList ++ '=' :: v.toList) = r.take o.setting (some v) := by
  have hspan : (o.setting.longName.toList ++ '=' :: v.toList).span (· ≠ '=') =
      (o.setting.longName.toList, '=' :: v.toList) := span_longName o.setting (by simp)
  have htakes : o.setting.takesValue = true := by rw [o.takesValue_setting, ho]; rfl
  rw [takeLong, hspan]
  simp only [String.ofList_toList, Level.ofLongName?_longName hl, htakes, if_true]

theorem Settings.takeLetters_singleton {c : Char} (hc : l.ofLetter? c = some s) (r : Settings) :
    r.takeLetters l [c] = r.take s none := by
  rw [takeLetters, hc]
  simp only [takeLetters]
  cases s.takesValue with
  | true => rfl
  | false => cases r.take s none <;> rfl

theorem readWords_long {name : List Char} (hw : w.toList = '-' :: '-' :: name) (hne : name ≠ []) (r : Settings)
    (rest : List String) :
    readWords l false r (w :: rest) = (r.takeLong l name).bind fun r => readWords l false r rest := by
  rw [readWords, isCommandWord_eq_false (by rw [hw]; rfl)]
  simp [hw]

theorem readWords_letter {c : Char} (hw : w.toList = ['-', c]) (hc : c ≠ '-') (r : Settings) (rest : List String) :
    readWords l false r (w :: rest) = (r.takeLetters l [c]).bind fun r => readWords l false r rest := by
  rw [readWords, isCommandWord_eq_false (by rw [hw]; rfl)]
  simp [hw, hc]

theorem readWords_value (hr : r.isWaiting = true) (hv : v.toList.head? ≠ some '-') (rest : List String) :
    readWords l false r (v :: rest) = readWords l false (r.fill v) rest := by
  rw [readWords, hr]
  cases hword : v.toList with
  | nil => simp
  | cons c cs =>
    have hc : c ≠ '-' := by
      rintro rfl
      rw [hword] at hv
      exact hv rfl
    simp [hc]

/-! ## Settings that are read -/

theorem readWords_flag (hl : l.Takes o) (hw : w = o.flag ∨ o.shortFlag? l = some w) (r : Settings) (rest : List String) :
    readWords l false r (w :: rest) = (r.take o.setting none).bind fun r => readWords l false r rest := by
  rcases hw with rfl | hw
  · have hword : o.flag.toList = '-' :: '-' :: o.setting.longName.toList := by
      rw [o.flag_eq, String.toList_append]
      rfl
    rw [readWords_long hword o.setting.longName_ne, Settings.takeLong_longName hl]
  · obtain ⟨c, hword, hc, hletter⟩ := Choice.exists_letter hw
    rw [readWords_letter hword hc, Settings.takeLetters_singleton hletter]

/-- **Each way to write a setting says that setting**, and nothing about what comes behind. -/
theorem readWords_spells {words : List String} (h : Spells l o words) (hl : l.Takes o) (hr : r.Holds given)
    (hnew : given.lookup o.setting = none) (hallows : o.setting.allows o.entry.2 = true) :
    ∃ r' : Settings, r'.Holds (o.entry :: given) ∧
      ∀ rest, readWords l false r (words ++ rest) = readWords l false r' rest := by
  have hadd : ({ given := given } : Settings).add o.setting o.entry.2 = .ok { given := o.entry :: given } :=
    Settings.add_of_new hnew hallows
  cases h with
  | switch ho hw =>
    have hentry : o.entry = (o.setting, "") := by rw [Choice.entry, ho]; rfl
    rw [hentry] at hadd ⊢
    refine ⟨{ given := (o.setting, "") :: given }, rfl, fun rest => ?_⟩
    rw [List.singleton_append, readWords_flag hl hw, Settings.take_switch hr ho, hadd]
    rfl
  | @apart w v ho hw hv =>
    have hentry : o.entry = (o.setting, v) := by rw [Choice.entry, ho]; rfl
    rw [hentry] at hadd ⊢
    -- the value is settled when something else comes
    refine ⟨{ given := given, pending := some (o.setting, some v) }, hadd, fun rest => ?_⟩
    rw [List.cons_append, List.singleton_append, readWords_flag hl hw, Settings.take_waiting hr ho]
    exact readWords_value rfl hv rest
  | @joined v ho =>
    have hentry : o.entry = (o.setting, v) := by rw [Choice.entry, ho]; rfl
    rw [hentry] at hadd ⊢
    have hword : (o.flag ++ "=" ++ v).toList = '-' :: '-' :: (o.setting.longName.toList ++ '=' :: v.toList) := by
      rw [String.toList_append, String.toList_append, o.flag_eq, String.toList_append, List.append_assoc]
      rfl
    refine ⟨{ given := (o.setting, v) :: given }, rfl, fun rest => ?_⟩
    rw [List.singleton_append, readWords_long hword (by simp), Settings.takeLong_joined hl ho, Settings.take_attached hr,
      hadd]
    rfl

/-- Settings are noted one after another, if none of them comes twice. -/
theorem readWords_flatten {os : List Choice} {pieces : List (List String)} (h : List.Forall₂ (Spells l) os pieces)
    (hl : ∀ o ∈ os, l.Takes o) (hallows : ∀ o ∈ os, o.setting.allows o.entry.2 = true)
    (hnodup : (os.map (·.setting)).Nodup) (hr : r.Holds given) (hnew : ∀ o ∈ os, given.lookup o.setting = none) :
    ∃ r' : Settings, r'.Holds ((os.map (·.entry)).reverse ++ given) ∧
      ∀ rest, readWords l false r (pieces.flatten ++ rest) = readWords l false r' rest := by
  -- what has been given is carried along, and none of it may come again
  induction h generalizing r given with
  | nil => exact ⟨r, hr, fun rest => rfl⟩
  | @cons o words os pieces ho _ ih =>
    obtain ⟨hlo, hl⟩ := List.forall_mem_cons.1 hl
    obtain ⟨hallowso, hallows⟩ := List.forall_mem_cons.1 hallows
    obtain ⟨hnewo, hnew⟩ := List.forall_mem_cons.1 hnew
    obtain ⟨hfresh, hnodup⟩ := List.nodup_cons.1 hnodup
    obtain ⟨r₁, hr₁, hread₁⟩ := readWords_spells ho hlo hr hnewo hallowso
    have hnew₁ : ∀ p ∈ os, (o.entry :: given).lookup p.setting = none := by
      intro p hp
      have hne : p.setting ≠ o.setting := fun heq => hfresh (List.mem_map.2 ⟨p, hp, heq⟩)
      rw [Choice.entry, List.lookup_cons, beq_false_of_ne hne]
      exact hnew p hp
    obtain ⟨r₂, hr₂, hread₂⟩ := ih hl hallows hnodup hr₁ hnew₁
    refine ⟨r₂, ?_, fun rest => ?_⟩
    · rwa [List.map_cons, List.reverse_cons, List.append_assoc]
    · rw [List.flatten_cons, List.append_assoc, hread₁, hread₂]

theorem exists_readWords {os : List Choice} {pieces : List (List String)} (h : List.Forall₂ (Spells l) os pieces)
    (hl : ∀ o ∈ os, l.Takes o) (hallows : ∀ o ∈ os, o.setting.allows o.entry.2 = true)
    (hnodup : (os.map (·.setting)).Nodup) :
    ∃ r : Settings, r.Holds (os.map (·.entry)).reverse ∧
      ∀ rest, readWords l false {} (pieces.flatten ++ rest) = readWords l false r rest := by
  have hstart : Settings.Holds {} [] := rfl
  obtain ⟨r, hr, hread⟩ := readWords_flatten h hl hallows hnodup hstart fun _ _ => rfl
  rw [List.append_nil] at hr
  exact ⟨r, hr, hread⟩

end LintGloss
