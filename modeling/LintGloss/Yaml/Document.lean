import LintGloss.Yaml.Node
import LintGloss.Yaml.Scalar
import LintGloss.Yaml.Token.Lexer
/-!
# YAML documents

`Yaml.parse?` reads the value of a text that holds one document, or none: then the
value is null.

Aliases are followed when the value is made.  Each anchor has a slot, and an alias
stands for the node that took the slot last.  A slot is the number of anchor names
seen before, so the anchor that gives a name a second time and the next new name
share one.  Collections can be 128 deep, aliases followed; and an alias may be
followed at most a hundred times as often as the document has parts.
-/

namespace LintGloss.Yaml

/-! ## The document of a text -/

/-- What tag handles are short for if no directive says otherwise. -/
def standardHandles : Node.Handles :=
  [(['!'], Token.octetsOf ['!']), (['!', '!'], Token.octetsOf (Scalar.coreTag ""))]

/-- The directives at the front, and the tokens after them.  There can be one version, of
the two that are known, and one meaning for each handle. -/
def directives? (version : Bool) (handles : Node.Handles) :
    List Token → Option (Node.Handles × List Token)
  | .version major minor :: ts =>
    if version || major != 1 || (minor != 1 && minor != 2) then none
    else directives? true handles ts
  | .handle h uri :: ts =>
    if (handles.lookup h).isSome then none else directives? version ((h, uri) :: handles) ts
  | ts => some (handles ++ standardHandles, ts)

/-- Whether a document begins with its directives or its mark. -/
def startsExplicitly : List Token → Bool
  | .version .. :: _ | .handle .. :: _ | .documentStart :: _ => true
  | _ => false

/-- The root of the first document and the tokens after it.  An explicit document may be
empty. -/
def root? (ts : List Token) : Option (Node String × List Token) :=
  if startsExplicitly ts then do
    match ← directives? false [] ts with
    | (handles, .documentStart :: ts) =>
      if ts = [] ∨ startsExplicitly ts ∨ ts.head? = some .documentEnd then some (.empty, ts)
      else Node.ofTokens? handles ts
    | _ => none
  else Node.ofTokens? standardHandles ts

/-- The root of the only document.  After it nothing but ends of documents may stand. -/
def onlyRoot? (ts : List Token) : Option (Node String) := do
  let (n, rest) ← root? ts
  if rest.all (· = .documentEnd) then some n else none

/-! ## Anchors -/

namespace Node

/-- The slots of the names seen so far, the latest first. -/
structure Slots where
  names : List (String × Nat) := []
  count : Nat := 0
  deriving DecidableEq, Repr

namespace Slots

/-- Gives a name the next slot. -/
def take (s : Slots) (name : String) : Nat × Slots :=
  (s.count,
    ⟨(name, s.count) :: s.names, if (s.names.lookup name).isSome then s.count else s.count + 1⟩)

def takeOptional (s : Slots) : Option String → Option Nat × Slots
  | none => (none, s)
  | some name =>
    let (slot, s) := s.take name
    (some slot, s)

end Slots

mutual

/-- The same node with a slot for each name.  An alias must come after its anchor, and may
stand inside of it. -/
def assign? (s : Slots) : Node String → Option (Node Nat × Slots)
  | .alias name => (s.names.lookup name).map fun slot => (.alias slot, s)
  | .scalar anchor tag text plain =>
    let (slot, s) := s.takeOptional anchor
    some (.scalar slot tag text plain, s)
  | .seq anchor tag items => do
    let (slot, s) := s.takeOptional anchor
    let (items, s) ← assignItems? s items
    some (.seq slot tag items, s)
  | .map anchor tag entries => do
    let (slot, s) := s.takeOptional anchor
    let (entries, s) ← assignEntries? s entries
    some (.map slot tag entries, s)

def assignItems? (s : Slots) : List (Node String) → Option (List (Node Nat) × Slots)
  | [] => some ([], s)
  | n :: rest => do
    let (n, s) ← assign? s n
    let (rest, s) ← assignItems? s rest
    some (n :: rest, s)

def assignEntries? (s : Slots) :
    List (Node String × Node String) → Option (List (Node Nat × Node Nat) × Slots)
  | [] => some ([], s)
  | (k, v) :: rest => do
    let (k, s) ← assign? s k
    let (v, s) ← assign? s v
    let (rest, s) ← assignEntries? s rest
    some ((k, v) :: rest, s)

end

mutual

/-- The node and all nodes inside of it, in the order of the text. -/
def parts {α : Type} : Node α → List (Node α)
  | .seq a t items => .seq a t items :: partsOfItems items
  | .map a t entries => .map a t entries :: partsOfEntries entries
  | n => [n]

def partsOfItems {α : Type} : List (Node α) → List (Node α)
  | [] => []
  | n :: rest => parts n ++ partsOfItems rest

def partsOfEntries {α : Type} : List (Node α × Node α) → List (Node α)
  | [] => []
  | (k, v) :: rest => parts k ++ parts v ++ partsOfEntries rest

end

def anchor? {α : Type} : Node α → Option α
  | .alias _ => none
  | .scalar a .. | .seq a .. | .map a .. => a

/-- How much a node alone counts: a collection has a beginning and an end. -/
def weight {α : Type} : Node α → Nat
  | .alias _ | .scalar .. => 1
  | .seq .. | .map .. => 2

end Node

/-! ## Values -/

/-- What is needed to follow aliases: the nodes by their slots, the latest first, and how
often aliases may be followed. -/
structure Anchors where
  nodes : List (Nat × Node Nat)
  limit : Nat

def Anchors.ofRoot (n : Node Nat) : Anchors where
  nodes := (n.parts.filterMap fun m => m.anchor?.map (·, m)).reverse
  limit := 100 * n.parts.foldl (fun total m => total + m.weight) 0

/-- A computation that counts the aliases followed so far and can fail. -/
abbrev Following := StateT Nat Option

/-- The node that an alias stands for; any other node is itself. -/
def Anchors.follow (anchors : Anchors) : Node Nat → Following (Node Nat)
  | .alias slot => do
    let followed := (← get) + 1
    if anchors.limit < followed then failure
    else
      set followed
      anchors.nodes.lookup slot
  | n => return n

/-- A value under the tag of its node.  The document's own tags stay on it, and of the
global ones only those of scalars mean something. -/
def underTag (tag : Option Tag) (v : Yaml) : Yaml :=
  match tag with
  | some (.named name) => .tagged name v
  | _ => v

def scalarValue? (tag : Option Tag) (text : List Char) (plain : Bool) : Option Yaml :=
  match tag with
  | some (.global uri) => Scalar.resolveTagged? uri text
  | tag =>
    (if plain then Scalar.resolve? text else some (.str (String.ofList text))).map (underTag tag)

/-- Adds an entry whose key must be new to a mapping. -/
def insertNew? (entries : List (Yaml × Yaml)) (e : Yaml × Yaml) : Option (List (Yaml × Yaml)) :=
  if entries.any fun old => old.1.same e.1 then none else some (entries ++ [e])

/-- How many collections may stand in one another. -/
def depthLimit : Nat := 128

/-- The value of a node that can hold collections of a depth. -/
def value (anchors : Anchors) : Nat → Node Nat → Following Yaml
  | 0, n => do
    match ← anchors.follow n with
    | .scalar _ tag text plain => scalarValue? tag text plain
    | _ => failure
  | depth + 1, n => do
    match ← anchors.follow n with
    | .scalar _ tag text plain => scalarValue? tag text plain
    | .seq _ tag items => do
      let items ← items.mapM (value anchors depth)
      return underTag tag (.seq items)
    | .map _ tag entries => do
      let entries ← entries.foldlM (fun done e => do
        let k ← value anchors depth e.1
        let v ← value anchors depth e.2
        insertNew? done (k, v)) []
      return underTag tag (.map entries)
    | .alias _ => failure

def parse? (s : List Char) : Option Yaml := do
  match ← lex? s with
  | [] => some .null
  | ts =>
    let (n, _) ← (← onlyRoot? ts).assign? {}
    (value (.ofRoot n) depthLimit n).run' 0

end LintGloss.Yaml
