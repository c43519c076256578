import LintGloss.Proofs.CommandLine.Spelling
/-!
# Requests

What is asked of the program is one of four commands with some of its settings, and it may be said how much is logged.
Whatever the order in which the settings come and however each of them is written, the command line is read as that
command (`parse_eq_request`).
-/

namespace LintGloss

/-- What is asked of the program.  A setting that is left out is left to the program. -/
inductive Request
  | run (config tool : Option String) (pretty : Bool)
  | init (preset config : Option String) (override pretty : Bool)
  | validate (config : Option String) (pretty : Bool)
  | list (config : Option String) (pretty : Bool)

namespace Request

def word : Request → String
  | run .. => "run"
  | init .. => "init"
  | validate .. => "validate"
  | list .. => "list"

def commandWord : Request → CommandWord
  | run .. => .run
  | init .. => .init
  | validate .. => .validate
  | list .. => .list

def command : Request → Command
  | run config tool pretty => .run config tool pretty
  | init preset config override pretty => .init (config.getD "lintent.yaml") (preset.getD "python") override pretty
  | validate config pretty => .validate config pretty
  | list config pretty => .list config pretty

/-- The settings that are given, in one of their orders. -/
def choices : Request → List Choice
  | run config tool pretty => (config.map .config).toList ++ (tool.map .tool).toList ++ if pretty then [.pretty] else []
  | init preset config override pretty =>
    (preset.map .preset).toList ++ (config.map .config).toList ++ (if override then [.override] else []) ++
      if pretty then [.pretty] else []
  | validate config pretty | list config pretty => (config.map .config).toList ++ if pretty then [.pretty] else []

end Request

/-- Whether it is said how much is logged, and if so, whether before the command or after it. -/
inductive LogFlag
  | absent
  | before (level : String)
  | after (level : String)

namespace LogFlag

def level? : LogFlag → Option String
  | absent => none
  | before level | after level => some level

def choicesBefore : LogFlag → List Choice
  | before level => [.logLevel level]
  | _ => []

def choicesAfter : LogFlag → List Choice
  | after level => [.logLevel level]
  | _ => []

end LogFlag

variable {r : Request} {log : LogFlag}

/-! ## Settings in any order -/

theorem lookup_eq_of_perm {es es' : List (Setting × String)} (h : es.Perm es') (hnodup : (es.map (·.1)).Nodup)
    (s : Setting) : es.lookup s = es'.lookup s := by
  induction h with
  | nil => rfl
  | cons e _ ih =>
    obtain ⟨k, v⟩ := e
    rw [List.lookup_cons, List.lookup_cons, ih (List.nodup_cons.1 hnodup).2]
  | swap e f es =>
    obtain ⟨k, v⟩ := e
    obtain ⟨m, w⟩ := f
    have hne : m ≠ k := fun heq => (List.nodup_cons.1 hnodup).1 (List.mem_cons.2 (.inl heq))
    simp only [List.lookup_cons]
    by_cases hs : s = k
    · rw [hs, beq_false_of_ne hne.symm]
    · rw [beq_false_of_ne hs]
  | trans h _ ih ih' => exact (ih hnodup).trans (ih' ((h.map _).nodup_iff.1 hnodup))

namespace Request

theorem sublist_optional {f : String → Choice} {k : Setting} (hf : ∀ v, (f v).setting = k) (v : Option String) :
    ((v.map f).toList.map (·.setting)).Sublist [k] := by
  cases v with
  | none => exact List.nil_sublist _
  | some v => simp [hf]

theorem sublist_switch (o : Choice) (given : Bool) :
    ((if given then [o] else []).map (·.setting)).Sublist [o.setting] := by
  cases given with
  | false => exact List.nil_sublist _
  | true => exact List.Sublist.refl _

theorem sublist_log (log : LogFlag) : (log.choicesAfter.map (·.setting)).Sublist [.logLevel, .help] := by
  cases log with
  | absent | before level => exact List.nil_sublist _
  | after level => exact (List.nil_sublist [Setting.help]).cons_cons _

/-- The settings of a request are known to its command, and each is given once. -/
theorem settings_sublist (r : Request) (log : LogFlag) :
    ((r.choices ++ log.choicesAfter).map (·.setting)).Sublist ((Level.after r.commandWord).settings.map (·.1)) := by
  have hconfig := sublist_optional (f := .config) (k := .config) fun _ => rfl
  have hpretty := sublist_switch .pretty
  rw [List.map_append]
  cases r with
  | run config tool pretty =>
    have htool := sublist_optional (f := .tool) (k := .tool) (fun _ => rfl) tool
    simp only [choices, List.map_append]
    exact (((hconfig config).append htool).append (hpretty pretty)).append (sublist_log log)
  | init preset config override pretty =>
    have hpreset := sublist_optional (f := .preset) (k := .preset) (fun _ => rfl) preset
    have hoverride := sublist_switch .override override
    simp only [choices, List.map_append]
    exact (((hpreset.append (hconfig config)).append hoverride).append (hpretty pretty)).append (sublist_log log)
  | validate config pretty | list config pretty =>
    simp only [choices, List.map_append]
    exact ((hconfig config).append (hpretty pretty)).append (sublist_log log)

theorem nodup_settings (word : CommandWord) : ((Level.after word).settings.map (·.1)).Nodup := by
  cases word <;> decide

theorem setting_ne_logLevel {o : Choice} (h : o ∈ r.choices) : o.setting ≠ .logLevel := by
  have hnodup := (nodup_settings r.commandWord).sublist (r.settings_sublist (.after ""))
  rw [List.map_append, List.nodup_append] at hnodup
  exact hnodup.2.2 _ (List.mem_map_of_mem h) _ List.mem_cons_self

theorem lookup_logLevel (r : Request) (log : LogFlag) :
    ((r.choices ++ log.choicesAfter).map (·.entry)).lookup .logLevel =
      (log.choicesAfter.map (·.entry)).lookup .logLevel := by
  have hnone : (r.choices.map (·.entry)).lookup .logLevel = none := by
    rw [List.lookup_eq_none_iff]
    intro e he
    obtain ⟨o, ho, rfl⟩ := List.mem_map.1 he
    have hne : Setting.logLevel ≠ o.entry.1 := (setting_ne_logLevel ho).symm
    simpa using hne
  rw [List.map_append, List.lookup_append, hnone, Option.none_or]

theorem commandOf_choices {given : List (Setting × String)}
    (h : ∀ s, given.lookup s = ((r.choices ++ log.choicesAfter).map (·.entry)).lookup s) :
    CommandLine.commandOf { given := given } r.commandWord = r.command := by
  -- with each setting either given or left out, what is looked up can be read off the list
  cases r with
  | run config tool pretty =>
    simp only [CommandLine.commandOf, commandWord, Settings.has, Settings.value?, h]
    cases config <;> cases tool <;> cases pretty <;> cases log <;> rfl
  | init preset config override pretty =>
    simp only [CommandLine.commandOf, commandWord, Settings.has, Settings.value?, h]
    cases preset <;> cases config <;> cases override <;> cases pretty <;> cases log <;> rfl
  | validate config pretty | list config pretty =>
    simp only [CommandLine.commandOf, commandWord, Settings.has, Settings.value?, h]
    cases config <;> cases pretty <;> cases log <;> rfl

end Request

/-! ## Requests that are read -/

theorem LogFlag.exists_of_mem {o : Choice} (h : o ∈ log.choicesBefore ∨ o ∈ log.choicesAfter) :
    ∃ level, o = .logLevel level := by
  cases log with
  | absent => simp [choicesBefore, choicesAfter] at h
  | before level | after level => exact ⟨level, by simpa [choicesBefore, choicesAfter] using h⟩

theorem allows_entry {o : Choice} (h : ∀ path, o = .config path → path ≠ "") : o.setting.allows o.entry.2 = true := by
  cases o with
  | config path => exact decide_eq_true (h path rfl)
  | _ => rfl

/-- What stands before a command is about the logging, if there is anything. -/
theorem exists_readWords_before {before : List (List String)} (h : List.Forall₂ (Spells .top) log.choicesBefore before)
    (r : Request) (rest : List String) :
    ∃ s : Settings, s.Holds (log.choicesBefore.map (·.entry)) ∧
      readWords .top false {} (before.flatten ++ r.word :: rest) = .ok (s, some (r.word, rest)) := by
  have htakes : ∀ o ∈ log.choicesBefore, Level.top.Takes o := by
    intro o ho
    obtain ⟨level, rfl⟩ := LogFlag.exists_of_mem (.inl ho)
    exact List.mem_cons_self
  have hallows : ∀ o ∈ log.choicesBefore, o.setting.allows o.entry.2 = true := by
    intro o ho
    obtain ⟨level, rfl⟩ := LogFlag.exists_of_mem (.inl ho)
    rfl
  have hnodup : (log.choicesBefore.map (·.setting)).Nodup := by cases log <;> simp [LogFlag.choicesBefore]
  have hone : (log.choicesBefore.map (·.entry)).reverse = log.choicesBefore.map (·.entry) := by cases log <;> rfl
  obtain ⟨s, hs, hread⟩ := exists_readWords h htakes hallows hnodup
  rw [hone] at hs
  have hword : isCommandWord r.word = true := by cases r <;> rfl
  refine ⟨s, hs, ?_⟩
  rw [hread, readWords, hs.isWaiting_eq_false, hword]
  rfl

/-- What stands after a command are its settings, and perhaps one about the logging among them. -/
theorem exists_readWords_after {order : List Choice} {after : List (List String)}
    (h : List.Forall₂ (Spells (.after r.commandWord)) order after) (horder : order.Perm (r.choices ++ log.choicesAfter))
    (hpath : ∀ path, .config path ∈ r.choices → path ≠ "") :
    ∃ (s : Settings) (given : List (Setting × String)), s.Holds given ∧
      (∀ k, given.lookup k = ((r.choices ++ log.choicesAfter).map (·.entry)).lookup k) ∧
      readWords (.after r.commandWord) false {} after.flatten = .ok (s, none) := by
  have hsublist := r.settings_sublist log
  have hnodup := (Request.nodup_settings r.commandWord).sublist hsublist
  have htakes : ∀ o ∈ order, (Level.after r.commandWord).Takes o := fun o ho =>
    hsublist.subset (List.mem_map_of_mem (horder.mem_iff.1 ho))
  have hallows : ∀ o ∈ order, o.setting.allows o.entry.2 = true := by
    intro o ho
    refine allows_entry fun path heq => ?_
    subst heq
    refine hpath path ((List.mem_append.1 (horder.mem_iff.1 ho)).resolve_right fun hlog => ?_)
    obtain ⟨level, hlevel⟩ := LogFlag.exists_of_mem (.inr hlog)
    cases hlevel
  obtain ⟨s, hs, hread⟩ := exists_readWords h htakes hallows ((horder.map _).nodup_iff.2 hnodup)
  refine ⟨s, _, hs, fun k => ?_, ?_⟩
  · have hperm : ((r.choices ++ log.choicesAfter).map (·.entry)).Perm (order.map (·.entry)).reverse :=
      ((List.reverse_perm _).trans (horder.map _)).symm
    refine (lookup_eq_of_perm hperm ?_ k).symm
    rwa [List.map_map]
  · rw [← List.append_nil after.flatten, hread]
    rfl

/-- **A request is understood in each of its spellings**: its settings may come in any order, each with its name or its
letter and with its value in the same word or in the next one.  How much is logged can be said before the command or
after it, and else in the environment, and makes no difference to the command. -/
theorem CommandLine.parse_eq_request (environment : Option String) {order : List Choice}
    {before after : List (List String)} (hpath : ∀ path, .config path ∈ r.choices → path ≠ "")
    (horder : order.Perm (r.choices ++ log.choicesAfter))
    (hbefore : List.Forall₂ (Spells .top) log.choicesBefore before)
    (hafter : List.Forall₂ (Spells (.after r.commandWord)) order after) :
    CommandLine.parse environment (before.flatten ++ r.word :: after.flatten) =
      .ok ⟨r.command, log.level?.getD (environment.getD "warn")⟩ := by
  obtain ⟨s, hs, htop⟩ := exists_readWords_before hbefore r after.flatten
  obtain ⟨s', given, hs', hgiven, hrest⟩ := exists_readWords_after hafter horder hpath
  have hword : CommandWord.ofString? r.word = some r.commandWord := by cases r <;> rfl
  rw [Settings.Holds] at hs hs'
  rw [CommandLine.parse, htop]
  simp only [bind, Except.bind, hword, hrest, hs, hs', pure, Except.pure, Request.commandOf_choices hgiven,
    Settings.value?, hgiven, Request.lookup_logLevel]
  cases log <;> rfl

/-- A value with an equals sign, values that are the words of commands, and a level that the environment does not have. -/
theorem CommandLine.parse_eq_request_run :
    let r : Request := .run (some "a=b.yaml") (some "init") true
    let log : LogFlag := .before "list"
    let order : List Choice := [.pretty, .tool "init", .config "a=b.yaml"]
    let before : List (List String) := [["--log-level", "list"]]
    let after : List (List String) := [["-p"], ["-t", "init"], ["--config=a=b.yaml"]]
    (∀ path, .config path ∈ r.choices → path ≠ "") ∧ order.Perm (r.choices ++ log.choicesAfter) ∧
      List.Forall₂ (Spells .top) log.choicesBefore before ∧
      List.Forall₂ (Spells (.after r.commandWord)) order after ∧
      CommandLine.parse (some "error") ["--log-level", "list", "run", "-p", "-t", "init", "--config=a=b.yaml"] =
        .ok ⟨.run (some "a=b.yaml") (some "init") true, "list"⟩ := by
  intro r log order before after
  have hpath : ∀ path, .config path ∈ r.choices → path ≠ "" := by
    intro path hmem
    have heq : path = "a=b.yaml" := by simpa [r, Request.choices] using hmem
    rw [heq]
    decide
  have horder : order.Perm (r.choices ++ log.choicesAfter) := by decide
  have hbefore : List.Forall₂ (Spells .top) log.choicesBefore before :=
    .cons (.apart rfl (.inl rfl) (by decide)) .nil
  have hjoined : Spells (.after r.commandWord) (.config "a=b.yaml") ["--config=a=b.yaml"] :=
    Spells.joined (v := "a=b.yaml") rfl
  have hafter : List.Forall₂ (Spells (.after r.commandWord)) order after :=
    .cons (.switch rfl (.inr rfl)) (.cons (.apart rfl (.inr rfl) (by decide)) (.cons hjoined .nil))
  exact ⟨hpath, horder, hbefore, hafter, parse_eq_request (some "error") hpath horder hbefore hafter⟩

end LintGloss
