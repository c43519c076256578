import LintGloss.Proofs.Diagnostic.Format
import LintGloss.Proofs.Json.Forms
/-!
# The shapes of diagnostics

What is read as a diagnostic is a finding of its tool, as an object or as an array at every level
(`Ruff.readsRecords_violation?`, `Pyright.readsRecords_violation?`, `Eslint.readsRecords_violation?`); everything else
is passed over.  A coordinate is a number that is written with digits alone (`Json.parse?_coordinate_iff`).
-/

namespace LintGloss

open Json (Given Numeral ReadsRecords boundedNat? optional? readsRecords_of_iff text?)

namespace Json

/-! ## Coordinates -/

theorem boundedNat?_eq_some_iff {x : Option Json} {n : Nat} :
    boundedNat? Violation.greatestCoordinate x = some n ↔ ∃ c : Coordinate, x = some c.toJson ∧ n = c.val := by
  constructor
  · intro h
    unfold boundedNat? at h
    split at h
    · rename_i k
      obtain ⟨⟨hnonneg, hle⟩, hk⟩ := Option.ite_none_right_eq_some.1 h
      obtain rfl := Option.some.inj hk
      have hbound : k.toNat ≤ 4294967295 := Int.toNat_le.2 hle
      refine ⟨⟨k.toNat, hbound⟩, ?_, rfl⟩
      rw [Coordinate.toJson, nat, Int.toNat_of_nonneg hnonneg]
    · cases h
  · rintro ⟨c, rfl, rfl⟩
    exact boundedNat?_toJson c

theorem optional?_coordinate_eq_some_iff {x : Option Json} {o : Option Nat} :
    optional? (boundedNat? Violation.greatestCoordinate) x = some o ↔
      ∃ g : Given Coordinate, g.Fits (fun c j => j = c.toJson) x ∧ o = g.toOption.map Subtype.val := by
  refine optional?_eq_some_iff (fun x n => ?_) nofun
  rw [boundedNat?_eq_some_iff]
  constructor
  · rintro ⟨c, rfl, rfl⟩
    exact ⟨c, _, rfl, rfl, rfl⟩
  · rintro ⟨c, -, rfl, rfl, rfl⟩
    exact ⟨c, rfl, rfl⟩

theorem optional?_text_eq_some_iff {x : Option Json} {o : Option String} :
    optional? text? x = some o ↔ ∃ g : Given String, g.Fits (fun s j => j = .str s) x ∧ o = g.toOption := by
  have h : optional? text? x = some o ↔
      ∃ g : Given String, g.Fits (fun s j => j = .str s) x ∧ o = g.toOption.map id := by
    refine optional?_eq_some_iff (fun x s => ?_) nofun
    rw [text?_eq_some_iff]
    constructor
    · rintro rfl
      exact ⟨s, _, rfl, rfl, rfl⟩
    · rintro ⟨s, -, rfl, rfl, rfl⟩
      rfl
  simpa using h

/-- **A text that is nothing but a number** has one token. -/
theorem Numeral.Spells.lexes_iff {n : Numeral} {s : List Char} (h : n.Spells s) {ts : List Token} :
    Lexes s ts ↔ ∃ t, n.toToken? = some t ∧ ts = [t] := by
  have hnumeral : Json.numeral? s = some (n, []) := by
    have h' := h.numeral? endsNumber_nil
    rwa [List.append_nil] at h'
  obtain ⟨c, s', hs, hc⟩ := exists_head_of_numeral? hnumeral
  have hskip : skipSpaces s = s := by
    rw [hs]
    refine List.dropWhile_cons_of_neg fun hspace => ?_
    have hfirm := h.isBlank c (by simp [hs])
    rw [isBlank_of_isSpace hspace] at hfirm
    cases hfirm
  have hnext : Token.next? s = n.toToken?.bind fun t => some (t, []) := by
    rw [hs, next?_numeral hc, ← hs, hnumeral]
    rfl
  constructor
  · intro hlexes
    cases hlexes with
    | nil hnil =>
      rw [hskip, hs] at hnil
      cases hnil
    | cons htoken hrest =>
      rw [hskip, hnext] at htoken
      obtain ⟨t, ht, hpair⟩ := Option.bind_eq_some_iff.1 htoken
      obtain ⟨rfl, rfl⟩ := Prod.mk.inj (Option.some.inj hpair)
      cases hrest with
      | nil => exact ⟨t, ht, rfl⟩
      | cons hmore => cases hmore
  · rintro ⟨t, ht, rfl⟩
    have htoken : Token.next? (skipSpaces s) = some (t, []) := by rw [hskip, hnext, ht]; rfl
    exact .cons htoken (.nil rfl)

theorem Numeral.Spells.parse?_eq_some_iff {n : Numeral} {s : List Char} (h : n.Spells s) {j : Json} :
    Json.parse? s = some j ↔ ∃ t, n.toToken? = some t ∧ Reader.scalar? t = some j := by
  have hone : ∀ t, ofTokens? [t] = Reader.scalar? t := by
    intro t
    cases t <;> rfl
  rw [Json.parse?]
  simp only [bind, Option.bind_eq_some_iff, lex_eq_some_iff, h.lexes_iff]
  constructor
  · rintro ⟨-, ⟨t, ht, rfl⟩, hj⟩
    exact ⟨t, ht, hone t ▸ hj⟩
  · rintro ⟨t, ht, hj⟩
    exact ⟨[t], ⟨t, ht, rfl⟩, (hone t).trans hj⟩

theorem Numeral.toToken?_eq_nat_iff {n : Numeral} {k : Nat} (hk : k ≤ 4294967295) :
    n.toToken? = some (.int k) ↔
      n.negative = false ∧ n.fraction = [] ∧ n.exponent = none ∧ Text.decimalValue n.whole = k := by
  have hlimit : (4294967295 : Nat) < Nat.pow 2 64 := by decide
  have hreal : (if n.inRange then some (Token.real n.toDecimal) else none) ≠ some (.int k) := by
    intro h
    cases Option.some.inj (Option.ite_none_right_eq_some.1 h).2
  unfold toToken?
  simp only [List.isEmpty_iff, Option.isNone_iff_eq_none, Bool.and_eq_true, Bool.not_eq_true']
  by_cases hwhole : n.fraction = [] ∧ n.exponent = none
  · cases hsign : n.negative with
    | false =>
      by_cases hfits : Text.decimalValue n.whole < Nat.pow 2 64
      · rw [if_pos ⟨hwhole, rfl, hfits⟩]
        simp only [Option.some.injEq, Token.int.injEq, Int.ofNat_inj, hwhole, true_and]
      · have hne : Text.decimalValue n.whole ≠ k := by omega
        simp [hwhole, hfits, hne, hreal]
    | true =>
      by_cases hfits : 0 < Text.decimalValue n.whole ∧ Text.decimalValue n.whole ≤ Nat.pow 2 63
      · have hne : -(Text.decimalValue n.whole : Int) ≠ k := by omega
        simp [hwhole, hfits, hne]
      · simp [hwhole, hfits, hreal]
  · have hnot : ∀ p : Prop, ¬ ((n.fraction = [] ∧ n.exponent = none) ∧ p) := fun p h => hwhole h.1
    rw [if_neg (hnot _), if_neg (hnot _)]
    exact iff_of_false hreal fun h => hwhole ⟨h.2.1, h.2.2.1⟩

/-- **A coordinate is written with digits alone**: no sign, no point and no exponent, whatever the value is. -/
theorem parse?_coordinate_iff {n : Numeral} {s : List Char} (h : n.Spells s) :
    (∃ c : Coordinate, Json.parse? s = some c.toJson) ↔
      n.negative = false ∧ n.fraction = [] ∧ n.exponent = none ∧ Text.decimalValue n.whole ≤ 4294967295 := by
  simp only [h.parse?_eq_some_iff]
  constructor
  · rintro ⟨c, t, ht, hc⟩
    have htoken : t = .int (c.val : Nat) := by
      cases t <;> simp_all [Reader.scalar?, Coordinate.toJson, nat]
    obtain ⟨hsign, hfraction, hexponent, hvalue⟩ := (Numeral.toToken?_eq_nat_iff c.property).1 (htoken ▸ ht)
    exact ⟨hsign, hfraction, hexponent, hvalue ▸ c.property⟩
  · rintro ⟨hsign, hfraction, hexponent, hle⟩
    exact ⟨⟨_, hle⟩, _, (Numeral.toToken?_eq_nat_iff hle).2 ⟨hsign, hfraction, hexponent, rfl⟩, rfl⟩

def PairIsIn (p : Coordinate × Coordinate) (vs : List (Option Json)) : Prop :=
  vs = [some p.1.toJson, some p.2.toJson]

theorem readsRecords_pair {a b : String} (hne : a ≠ b) (count : Nat → Nat) {read : Json → Option (Nat × Nat)}
    (hread : ∀ j, read j = (j.record? [⟨a, false⟩, ⟨b, false⟩]).bind fun get =>
      (boundedNat? Violation.greatestCoordinate (get a)).bind fun x =>
        (boundedNat? Violation.greatestCoordinate (get b)).bind fun y => some (count x, count y)) :
    ReadsRecords [⟨a, false⟩, ⟨b, false⟩] read (fun p => (count p.1, count p.2)) PairIsIn := by
  refine readsRecords_of_iff (by simpa using hne) hread fun get place => ?_
  simp only [Option.bind_eq_some_iff, boundedNat?_eq_some_iff]
  constructor
  · rintro ⟨-, ⟨x, hx, rfl⟩, -, ⟨y, hy, rfl⟩, hplace⟩
    refine ⟨(x, y), ?_, (Option.some.inj hplace).symm⟩
    rw [PairIsIn, ← hx, ← hy]
    rfl
  · rintro ⟨⟨x, y⟩, hp, rfl⟩
    obtain ⟨hx, hy⟩ : get a = some x.toJson ∧ get b = some y.toJson := by simpa [PairIsIn] using hp
    exact ⟨_, ⟨x, hx, rfl⟩, _, ⟨y, hy, rfl⟩, rfl⟩

end Json

open Json (PairIsIn)

/-! ## Ruff -/

namespace Diagnostic.Ruff

theorem readsRecords_location? : ReadsRecords locationShape location? (fun p => (p.1.val, p.2.val)) PairIsIn :=
  Json.readsRecords_pair (by decide) id fun _ => rfl

/-- What stands for each field of a finding; its place is a record of its own. -/
def Finding.IsIn (f : Finding) (vs : List (Option Json)) : Prop :=
  ∃ code place position, f.rule.Fits (fun s j => j = .str s) code ∧ place.Gives locationShape position ∧
    PairIsIn (f.row, f.column) position ∧ vs = [code, some (.str f.file), some place, some (.str f.message)]

/-- **What ruff's diagnostics are.** -/
theorem readsRecords_violation? : ReadsRecords shape violation? Finding.violation Finding.IsIn := by
  refine readsRecords_of_iff (by decide) (fun j => rfl) fun get v => ?_
  simp only [bind, Option.bind_eq_some_iff, Json.optional?_text_eq_some_iff, Json.text?_eq_some_iff,
    readsRecords_location?.accepts]
  constructor
  · rintro ⟨-, ⟨rule, hrule, rfl⟩, file, hfile, place, hplace, -, ⟨⟨row, column⟩, position, hgives, hp, rfl⟩, message,
      hmessage, hv⟩
    refine ⟨⟨rule, file, row, column, message⟩, ⟨get "code", place, position, hrule, hgives, hp, ?_⟩, ?_⟩
    · rw [← hfile, ← hplace, ← hmessage]
      rfl
    · rw [← Option.some.inj hv, Given.code_eq]
      rfl
  · rintro ⟨f, ⟨code, place, position, hrule, hgives, hp, hvs⟩, rfl⟩
    obtain ⟨hcode, hfile, hlocation, hmessage⟩ : get "code" = code ∧ get "filename" = some (.str f.file) ∧
        get "location" = some place ∧ get "message" = some (.str f.message) := by
      simpa [shape] using hvs
    refine ⟨_, ⟨f.rule, hcode ▸ hrule, rfl⟩, _, hfile, place, hlocation, _,
      ⟨(f.row, f.column), position, hgives, hp, rfl⟩, _, hmessage, ?_⟩
    rw [Given.code_eq]
    rfl

end Diagnostic.Ruff

/-! ## Pyright -/

namespace Diagnostic.Pyright

theorem readsRecords_position? :
    ReadsRecords positionShape position? (fun p => (fromOne p.1, fromOne p.2)) PairIsIn :=
  Json.readsRecords_pair (by decide) fromOne fun _ => rfl

def RangeIsIn (p : Coordinate × Coordinate) (vs : List (Option Json)) : Prop :=
  ∃ start position, start.Gives positionShape position ∧ PairIsIn p position ∧ vs = [some start]

theorem readsRecords_start? : ReadsRecords rangeShape start? (fun p => (fromOne p.1, fromOne p.2)) RangeIsIn := by
  refine readsRecords_of_iff (by decide) (fun j => rfl) fun get place => ?_
  simp only [bind, Option.bind_eq_some_iff, readsRecords_position?.accepts]
  constructor
  · rintro ⟨start, hstart, p, position, hgives, hp, rfl⟩
    refine ⟨p, ⟨start, position, hgives, hp, ?_⟩, rfl⟩
    rw [← hstart]
    rfl
  · rintro ⟨p, ⟨start, position, hgives, hp, hvs⟩, rfl⟩
    have hstart : get "start" = some start := by simpa [rangeShape] using hvs
    exact ⟨start, hstart, p, position, hgives, hp, rfl⟩

/-- What stands for each field of a finding; the range may be missing or null. -/
def Finding.IsIn (f : Finding) (vs : List (Option Json)) : Prop :=
  ∃ range rule, f.start.Fits (fun p j => ∃ vs, j.Gives rangeShape vs ∧ RangeIsIn p vs) range ∧
    f.rule.Fits (fun s j => j = .str s) rule ∧
      vs = [some (.str f.file), some (.str f.severity), some (.str f.message), range, rule]

theorem optional?_start_eq_some_iff {x : Option Json} {o : Option (Nat × Nat)} :
    optional? (fun x => x.bind start?) x = some o ↔
      ∃ g : Given (Coordinate × Coordinate), g.Fits (fun p j => ∃ vs, j.Gives rangeShape vs ∧ RangeIsIn p vs) x ∧
        o = g.toOption.map fun p => (fromOne p.1, fromOne p.2) := by
  refine Json.optional?_eq_some_iff (fun x place => ?_) fun p => ?_
  · simp only [Option.bind_eq_some_iff, readsRecords_start?.accepts]
    constructor
    · rintro ⟨j, rfl, p, vs, hgives, hp, rfl⟩
      exact ⟨p, j, rfl, ⟨vs, hgives, hp⟩, rfl⟩
    · rintro ⟨p, j, rfl, ⟨vs, hgives, hp⟩, rfl⟩
      exact ⟨j, rfl, p, vs, hgives, hp, rfl⟩
  · rintro ⟨vs, hgives, -⟩
    cases hgives

/-- **What pyright's diagnostics are.** -/
theorem readsRecords_violation? : ReadsRecords shape violation? Finding.violation Finding.IsIn := by
  refine readsRecords_of_iff (by decide) (fun j => rfl) fun get v => ?_
  simp only [bind, Option.bind_eq_some_iff, Json.optional?_text_eq_some_iff, Json.text?_eq_some_iff,
    optional?_start_eq_some_iff]
  constructor
  · rintro ⟨file, hfile, severity, hseverity, message, hmessage, -, ⟨start, hstart, rfl⟩, -, ⟨rule, hrule, rfl⟩, hv⟩
    refine ⟨⟨file, severity, message, start, rule⟩, ⟨get "range", get "rule", hstart, hrule, ?_⟩, ?_⟩
    · rw [← hfile, ← hseverity, ← hmessage]
      rfl
    · rw [← Option.some.inj hv, Given.code_eq, Finding.violation_eq, Finding.place_eq]
      rfl
  · rintro ⟨f, ⟨range, rule, hstart, hrule, hvs⟩, rfl⟩
    obtain ⟨hfile, hseverity, hmessage, hrange, hcode⟩ : get "file" = some (.str f.file) ∧
        get "severity" = some (.str f.severity) ∧ get "message" = some (.str f.message) ∧ get "range" = range ∧
          get "rule" = rule := by
      simpa [shape] using hvs
    refine ⟨_, hfile, _, hseverity, _, hmessage, _, ⟨f.start, hrange ▸ hstart, rfl⟩, _, ⟨f.rule, hcode ▸ hrule, rfl⟩,
      ?_⟩
    rw [Given.code_eq, Finding.violation_eq, Finding.place_eq]
    rfl

end Diagnostic.Pyright

/-! ## Eslint -/

namespace Diagnostic.Eslint

def Finding.IsIn (f : Finding) (vs : List (Option Json)) : Prop :=
  ∃ rule line column, f.rule.Fits (fun s j => j = .str s) rule ∧ f.line.Fits (fun c j => j = c.toJson) line ∧
    f.column.Fits (fun c j => j = c.toJson) column ∧ vs = [rule, some (.str f.message), line, column]

/-- **What eslint's messages are**, in whichever file. -/
theorem readsRecords_violation? (file : String) :
    ReadsRecords shape (violation? file) (Finding.violation file) Finding.IsIn := by
  refine readsRecords_of_iff (by decide) (fun j => rfl) fun get v => ?_
  simp only [bind, Option.bind_eq_some_iff, Json.optional?_text_eq_some_iff, Json.text?_eq_some_iff,
    Json.optional?_coordinate_eq_some_iff]
  constructor
  · rintro ⟨-, ⟨rule, hrule, rfl⟩, message, hmessage, -, ⟨line, hline, rfl⟩, -, ⟨column, hcolumn, rfl⟩, hv⟩
    refine ⟨⟨rule, message, line, column⟩, ⟨get "ruleId", get "line", get "column", hrule, hline, hcolumn, ?_⟩, ?_⟩
    · rw [← hmessage]
      rfl
    · rw [← Option.some.inj hv, Given.code_eq, Finding.violation, Finding.coordinate_eq, Finding.coordinate_eq]
      rfl
  · rintro ⟨f, ⟨rule, line, column, hrule, hline, hcolumn, hvs⟩, rfl⟩
    obtain ⟨hcode, hmessage, hline', hcolumn'⟩ : get "ruleId" = rule ∧ get "message" = some (.str f.message) ∧
        get "line" = line ∧ get "column" = column := by
      simpa [shape] using hvs
    refine ⟨_, ⟨f.rule, hcode ▸ hrule, rfl⟩, _, hmessage, _, ⟨f.line, hline' ▸ hline, rfl⟩, _,
      ⟨f.column, hcolumn' ▸ hcolumn, rfl⟩, ?_⟩
    rw [Given.code_eq, Finding.violation, Finding.coordinate_eq, Finding.coordinate_eq]
    rfl

def FileIsIn (file : String × List Json) (vs : List (Option Json)) : Prop :=
  vs = [some (.str file.1), some (.arr file.2)]

theorem readsRecords_file? : ReadsRecords fileShape file? id FileIsIn := by
  refine readsRecords_of_iff (by decide) (fun j => rfl) fun get file => ?_
  simp only [bind, Option.bind_eq_some_iff, Json.text?_eq_some_iff]
  constructor
  · rintro ⟨path, hpath, hfile⟩
    split at hfile
    · rename_i messages hmessages
      refine ⟨(path, messages), ?_, (Option.some.inj hfile).symm⟩
      rw [FileIsIn, ← hpath, ← hmessages]
      rfl
    · cases hfile
  · rintro ⟨⟨path, messages⟩, hvs, rfl⟩
    obtain ⟨hpath, hmessages⟩ : get "filePath" = some (.str path) ∧ get "messages" = some (.arr messages) := by
      simpa [FileIsIn, fileShape] using hvs
    refine ⟨path, hpath, ?_⟩
    rw [hmessages]
    rfl

end Diagnostic.Eslint

/-! ## The shapes -/

namespace Diagnostic

/-- What is read as a diagnostic, from objects and from arrays, and what is a coordinate. -/
structure ReadByShape : Prop where
  ruff : ReadsRecords [⟨"code", true⟩, ⟨"filename", false⟩, ⟨"location", false⟩, ⟨"message", false⟩]
    Ruff.violation? Ruff.Finding.violation Ruff.Finding.IsIn
  ruff_location : ReadsRecords [⟨"row", false⟩, ⟨"column", false⟩]
    Ruff.location? (fun p => (p.1.val, p.2.val)) PairIsIn
  pyright : ReadsRecords
    [⟨"file", false⟩, ⟨"severity", false⟩, ⟨"message", false⟩, ⟨"range", true⟩, ⟨"rule", true⟩]
    Pyright.violation? Pyright.Finding.violation Pyright.Finding.IsIn
  pyright_range : ReadsRecords [⟨"start", false⟩]
    Pyright.start? (fun p => (min (p.1 + 1) 4294967295, min (p.2 + 1) 4294967295)) Pyright.RangeIsIn
  pyright_position : ReadsRecords [⟨"line", false⟩, ⟨"character", false⟩]
    Pyright.position? (fun p => (min (p.1 + 1) 4294967295, min (p.2 + 1) 4294967295)) PairIsIn
  eslint : ∀ file, ReadsRecords [⟨"ruleId", false⟩, ⟨"message", false⟩, ⟨"line", true⟩, ⟨"column", true⟩]
    (Eslint.violation? file) (Eslint.Finding.violation file) Eslint.Finding.IsIn
  eslint_file : ReadsRecords [⟨"filePath", false⟩, ⟨"messages", false⟩] Eslint.file? id Eslint.FileIsIn
  /-- The code comes first, so that an array cannot do without it. -/
  ruff_length : ∀ items v, Ruff.violation? (.arr items) = some v → items.length = 4
  pyright_length : ∀ items v, Pyright.violation? (.arr items) = some v → 3 ≤ items.length ∧ items.length ≤ 5
  eslint_length : ∀ file items v, Eslint.violation? file (.arr items) = some v →
    2 ≤ items.length ∧ items.length ≤ 4
  /-- Arrays in arrays, and objects in objects. -/
  ruff_nested : ∀ code file row column message,
    Ruff.violation? (.arr [code, file, .arr [row, column], message]) =
      Ruff.violation? (.obj [("code", code), ("filename", file), ("location", .obj [("row", row), ("column", column)]),
        ("message", message)])
  pyright_nested : ∀ file severity message line character rule,
    Pyright.violation? (.arr [file, severity, message, .arr [.arr [line, character]], rule]) =
      Pyright.violation? (.obj [("file", file), ("severity", severity), ("message", message),
        ("range", .obj [("start", .obj [("line", line), ("character", character)])]), ("rule", rule)])
  coordinate_iff : ∀ j : Json, (∃ c : Coordinate, j = c.toJson) ↔ ∃ n : Int, j = .int n ∧ 0 ≤ n ∧ n ≤ 4294967295
  /-- As it is written: no sign, no point and no exponent. -/
  literal_iff : ∀ (n : Numeral) s, n.Spells s → ((∃ c : Coordinate, Json.parse? s = some c.toJson) ↔
    n.negative = false ∧ n.fraction = [] ∧ n.exponent = none ∧ Text.decimalValue n.whole ≤ 4294967295)
  /-- Each item of an output is read for itself. -/
  ruff_read : ∀ output items, Json.parse? (Text.trim output.toList) = some (.arr items) →
    Tool.ruff.read output = items.filterMap Ruff.violation?
  pyright_read : ∀ output j items, Json.parse? (Text.trim output.toList) = some j →
    j.member? "generalDiagnostics" = some (.arr items) → Tool.pyright.read output = items.filterMap Pyright.violation?
  eslint_read : ∀ output files, Json.parse? (Text.trim output.toList) = some (.arr files) →
    Tool.eslint.read output = files.flatMap fun j =>
      (Eslint.file? j).elim [] fun file => file.2.filterMap (Eslint.violation? file.1)

theorem Coordinate.exists_toJson_iff {j : Json} :
    (∃ c : Coordinate, j = c.toJson) ↔ ∃ n : Int, j = .int n ∧ 0 ≤ n ∧ n ≤ 4294967295 := by
  constructor
  · rintro ⟨c, rfl⟩
    exact ⟨c.val, rfl, Int.natCast_nonneg _, Int.ofNat_le.2 c.property⟩
  · rintro ⟨n, rfl, hnonneg, hle⟩
    refine ⟨⟨n.toNat, Int.toNat_le.2 hle⟩, ?_⟩
    rw [Coordinate.toJson, Json.nat, Int.toNat_of_nonneg hnonneg]

/-- **A diagnostic is read if it has the shape of one**, and an array as the object with its items. -/
theorem read_by_shape : ReadByShape where
  ruff := Ruff.readsRecords_violation?
  ruff_location := Ruff.readsRecords_location?
  pyright := Pyright.readsRecords_violation?
  pyright_range := Pyright.readsRecords_start?
  pyright_position := Pyright.readsRecords_position?
  eslint := Eslint.readsRecords_violation?
  eslint_file := Eslint.readsRecords_file?
  ruff_length items v h := by
    obtain ⟨hle, hbeyond⟩ := Ruff.readsRecords_violation?.length items v h
    exact Nat.le_antisymm hle (hbeyond 3 ⟨"message", false⟩ rfl rfl)
  pyright_length items v h := by
    obtain ⟨hle, hbeyond⟩ := Pyright.readsRecords_violation?.length items v h
    exact ⟨hbeyond 2 ⟨"message", false⟩ rfl rfl, hle⟩
  eslint_length file items v h := by
    obtain ⟨hle, hbeyond⟩ := (Eslint.readsRecords_violation? file).length items v h
    exact ⟨hbeyond 1 ⟨"message", false⟩ rfl rfl, hle⟩
  ruff_nested _ _ _ _ _ := rfl
  pyright_nested _ _ _ _ _ _ := rfl
  coordinate_iff _ := Coordinate.exists_toJson_iff
  literal_iff _ _ h := Json.parse?_coordinate_iff h
  ruff_read output items h := by
    simp only [Tool.read, Ruff.read, h]
  pyright_read output j items h hitems := by
    have hkey : j.member? Pyright.itemsKey = some (.arr items) := hitems
    simp only [Tool.read, Pyright.read, h, Option.bind_some, hkey]
  eslint_read output files h := by
    simp only [Tool.read, Eslint.read, h]
    refine congrArg (files.flatMap ·) (funext fun j => ?_)
    unfold Eslint.fileViolations
    cases Eslint.file? j <;> rfl

/-- An array that leaves off the column, and an object with another line before the one that counts. -/
theorem read_by_shape_eslint :
    let v : Violation := ⟨.eslint, "a.js", 3, 1, "eslint-error", "bad"⟩
    let members : List (String × Json) :=
      [("line", .real ⟨false, 30, -1⟩), ("fix", .null), ("message", .str "bad"), ("ruleId", .null), ("line", .int 3)]
    Eslint.violation? "a.js" (.arr [.null, .str "bad", .int 3]) = some v ∧
      Eslint.violation? "a.js" (.obj members) = some v ∧
        Eslint.violation? "a.js" (.arr [.null, .str "bad", .real ⟨false, 30, -1⟩]) = none := by
  intro v members
  have harray : Eslint.violation? "a.js" (.arr [.null, .str "bad", .int 3]) = some v := by decide
  refine ⟨harray, (read_by_shape.eslint "a.js").agree _ members _ harray fun k f hf => ?_, by decide⟩
  match k with
  | 0 | 1 | 2 | 3 => obtain rfl := Option.some.inj hf; rfl
  | k + 4 => cases hf

end Diagnostic

end LintGloss
