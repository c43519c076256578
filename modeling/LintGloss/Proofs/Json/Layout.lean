import LintGloss.Json.Printer
import LintGloss.Proofs.Json.Members
import LintGloss.Proofs.Json.Token
/-!
# The layouts of a value

A value is a row of tokens (`tokens`), and a text in either layout is the texts of these tokens with spaces between them
(`spread_renderAt`).
-/

namespace LintGloss.Json

/-! ## Tokens of a value -/

mutual

def tokens : Json → List Token
  | .null => [.null]
  | .bool b => [.bool b]
  | .int n => [.int n]
  | .real d => [.real d]
  | .str s => [.str s]
  | .arr [] => [.arrOpen, .arrClose]
  | .arr (j :: rest) => .arrOpen :: (tokens j ++ (tokensOfItems rest ++ [.arrClose]))
  | .obj [] => [.objOpen, .objClose]
  | .obj ((k, j) :: rest) => .objOpen :: .str k :: .colon :: (tokens j ++ (tokensOfMembers rest ++ [.objClose]))

/-- The items after the first, each with the comma before it. -/
def tokensOfItems : List Json → List Token
  | [] => []
  | j :: rest => .comma :: (tokens j ++ tokensOfItems rest)

/-- The members after the first, each with the comma before it. -/
def tokensOfMembers : List (String × Json) → List Token
  | [] => []
  | (k, j) :: rest => .comma :: .str k :: .colon :: (tokens j ++ tokensOfMembers rest)

end

/-! ## Tokens with spaces between them -/

/-- A text that is the texts of some tokens with spaces between them.  Right behind a number nothing may go on it. -/
inductive Spread : List Char → List Token → Prop
  | nil : Spread [] []
  | space {c : Char} {s : List Char} {ts : List Token} (hc : isSpace c = true) (h : Spread s ts) : Spread (c :: s) ts
  | token {t : Token} {s : List Char} {ts : List Token} (hend : t.isNumber = true → EndsNumber s) (h : Spread s ts) :
      Spread (t.text ++ s) (t :: ts)

theorem Spread.append {s u : List Char} {ts us : List Token} (hs : Spread s ts) (hu : Spread u us)
    (hend : EndsNumber u) : Spread (s ++ u) (ts ++ us) := by
  induction hs with
  | nil => exact hu
  | space hc _ ih => exact .space hc ih
  | token ht _ ih =>
    rw [List.append_assoc, List.cons_append]
    exact .token (fun hnumber => (ht hnumber).append hend) ih

theorem spread_text (t : Token) : Spread t.text [t] := by
  have h : Spread (t.text ++ []) [t] := .token (fun _ => endsNumber_nil) .nil
  rwa [List.append_nil] at h

theorem Spread.behind_spaces {u : List Char} {us : List Token} (hu : Spread u us) :
    ∀ {s : List Char}, (∀ c ∈ s, isSpace c = true) → Spread (s ++ u) us
  | [], _ => hu
  | c :: s, h => by
    obtain ⟨hc, hs⟩ := List.forall_mem_cons.1 h
    exact .space hc (hu.behind_spaces hs)

theorem endsNumber_of_spaces {s : List Char} (h : ∀ c ∈ s, isSpace c = true) : EndsNumber s := by
  cases s with
  | nil => exact endsNumber_nil
  | cons c s =>
    have hc := h c List.mem_cons_self
    simp only [isSpace, Bool.or_eq_true, beq_iff_eq] at hc
    rcases hc with ((rfl | rfl) | rfl) | rfl <;> exact endsNumber_cons (by decide) s

/-! ## Both layouts -/

section Layouts

variable (l : Layout)

theorem isSpace_of_mem_lineBreak {depth : Nat} {c : Char} (h : c ∈ l.lineBreak depth) : isSpace c = true := by
  cases l with
  | compact => cases h
  | pretty =>
    rcases List.mem_cons.1 h with rfl | h
    · rfl
    · rw [List.eq_of_mem_replicate h]
      rfl

theorem spread_end (depth : Nat) {t : Token} {c : Char} (ht : t.text = [c])
    (hc : c.isDigit = false ∧ c ≠ '.' ∧ c ≠ 'e' ∧ c ≠ 'E') :
    Spread (l.lineBreak depth ++ [c]) [t] ∧ EndsNumber (l.lineBreak depth ++ [c]) := by
  have hspaces : ∀ c ∈ l.lineBreak depth, isSpace c = true := fun c h => isSpace_of_mem_lineBreak l h
  exact ⟨(ht ▸ spread_text t).behind_spaces hspaces, (endsNumber_of_spaces hspaces).append (endsNumber_cons hc [])⟩

theorem spread_comma (depth : Nat) {s : List Char} {ts : List Token} (h : Spread s ts) :
    Spread (',' :: (l.lineBreak depth ++ s)) (.comma :: ts) :=
  .token (t := .comma) (fun h => nomatch h) (h.behind_spaces fun _ hc => isSpace_of_mem_lineBreak l hc)

theorem spread_member (k : String) {s : List Char} {ts : List Token} (h : Spread s ts) :
    Spread (quote k ++ (l.colon ++ s)) (.str k :: .colon :: ts) := by
  refine .token (t := .str k) (fun h => nomatch h) ?_
  cases l with
  | compact => exact .token (t := .colon) (fun h => nomatch h) h
  | pretty => exact .token (t := .colon) (fun h => nomatch h) (.space rfl h)

theorem spread_renderItems {depth : Nat} : ∀ {items : List Json},
    (∀ j ∈ items, Spread (renderAt l depth j) j.tokens) →
    Spread (renderItems l depth items) (tokensOfItems items) ∧ EndsNumber (renderItems l depth items)
  | [], _ => ⟨.nil, endsNumber_nil⟩
  | j :: items, h => by
    obtain ⟨hj, hitems⟩ := List.forall_mem_cons.1 h
    obtain ⟨hspread, hend⟩ := spread_renderItems hitems
    have hcomma := spread_comma l depth (hj.append hspread hend)
    simp only [renderItems, tokensOfItems, List.cons_append, List.append_assoc]
    exact ⟨hcomma, endsNumber_cons (by decide) _⟩

theorem spread_renderMembers {depth : Nat} : ∀ {members : List (String × Json)},
    (∀ m ∈ members, Spread (renderAt l depth m.2) m.2.tokens) →
    Spread (renderMembers l depth members) (tokensOfMembers members) ∧ EndsNumber (renderMembers l depth members)
  | [], _ => ⟨.nil, endsNumber_nil⟩
  | (k, j) :: members, h => by
    obtain ⟨hj, hmembers⟩ := List.forall_mem_cons.1 h
    obtain ⟨hspread, hend⟩ := spread_renderMembers hmembers
    have hcomma := spread_comma l depth (spread_member l k (hj.append hspread hend))
    simp only [renderMembers, tokensOfMembers, List.cons_append, List.append_assoc]
    exact ⟨hcomma, endsNumber_cons (by decide) _⟩

/-- **A layout puts spaces between the tokens of a value** and does nothing else to them. -/
theorem spread_renderAt (j : Json) : ∀ depth, Spread (renderAt l depth j) j.tokens := by
  induction j using Json.induction with
  | null => exact fun _ => spread_text .null
  | bool b => exact fun _ => spread_text (.bool b)
  | int n => exact fun _ => spread_text (.int n)
  | real d => exact fun _ => spread_text (.real d)
  | str s => exact fun _ => spread_text (.str s)
  | arr items ih =>
    intro depth
    cases items with
    | nil => exact .token (t := .arrOpen) (fun h => nomatch h) (spread_text .arrClose)
    | cons j items =>
      obtain ⟨hj, hitems⟩ := List.forall_mem_cons.1 ih
      obtain ⟨hspread, hends⟩ := spread_renderItems l fun j hj => hitems j hj (depth + 1)
      obtain ⟨hclose, hend⟩ := spread_end l depth (t := .arrClose) rfl (by decide)
      -- from the end: the bracket, the further items, the first one and the line break before it
      have hrest := (hj (depth + 1)).append (hspread.append hclose hend) (hends.append hend)
      have hbreak := hrest.behind_spaces (s := l.lineBreak (depth + 1)) fun _ hc => isSpace_of_mem_lineBreak l hc
      simp only [renderAt, tokens, List.cons_append, List.append_assoc]
      exact .token (t := .arrOpen) (fun h => nomatch h) hbreak
  | obj members ih =>
    intro depth
    cases members with
    | nil => exact .token (t := .objOpen) (fun h => nomatch h) (spread_text .objClose)
    | cons m members =>
      obtain ⟨k, j⟩ := m
      obtain ⟨hj, hmembers⟩ := List.forall_mem_cons.1 ih
      obtain ⟨hspread, hends⟩ := spread_renderMembers l fun m hm => hmembers m hm (depth + 1)
      obtain ⟨hclose, hend⟩ := spread_end l depth (t := .objClose) rfl (by decide)
      have hrest := (hj (depth + 1)).append (hspread.append hclose hend) (hends.append hend)
      have hmember := spread_member l k hrest
      have hbreak := hmember.behind_spaces (s := l.lineBreak (depth + 1)) fun _ hc => isSpace_of_mem_lineBreak l hc
      simp only [renderAt, tokens, List.cons_append, List.append_assoc]
      exact .token (t := .objOpen) (fun h => nomatch h) hbreak

end Layouts

end LintGloss.Json
