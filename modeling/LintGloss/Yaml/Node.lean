import LintGloss.Text.Utf8
import LintGloss.Yaml.Token
/-!
# YAML nodes

The tree that the tokens of a text write, before its scalars are given their meaning
and its aliases are followed.  `Node.ofTokens?` reads the node at the front of a list
of tokens.

What is left out is an empty scalar: the value of a key without a colon, an item
that is only a hyphen, and whatever an anchor or a tag with nothing behind it stands
for.
-/

namespace LintGloss.Yaml

/-- The tag of a node: one of the document's own, named after its exclamation mark, or
one that is the same in all documents. -/
inductive Tag
  | named (name : String)
  | global (uri : List Char)
  deriving DecidableEq, Repr

/-- A tag's text without the exclamation mark at its front; the mark alone is a name. -/
def Tag.withoutMark : List Char → List Char
  | '!' :: c :: rest => c :: rest
  | s => s

/-- The tag that some octets spell.  After an exclamation mark they have to be a text, or
there is no tag; a second mark after the first says nothing more. -/
def Tag.ofOctets? : List UInt8 → Option Tag
  | [0x21] => some (.named "!")
  | 0x21 :: rest =>
    (Text.Utf8.decode? rest).map fun s => .named (String.ofList (withoutMark s))
  | octets => some (.global (Text.Utf8.decodeLossy octets))

/-- A node whose anchors and aliases are known by values of a type. -/
inductive Node (α : Type)
  | alias (target : α)
  | scalar (anchor : Option α) (tag : Option Tag) (text : List Char) (plain : Bool)
  | seq (anchor : Option α) (tag : Option Tag) (items : List (Node α))
  | map (anchor : Option α) (tag : Option Tag) (entries : List (Node α × Node α))
  deriving Repr, Inhabited

namespace Node

/-- What stands where nothing is written. -/
def empty {α : Type} : Node α := .scalar none none [] true

/-- What the handles of tags are short for; of two meanings the first counts. -/
abbrev Handles := List (List Char × List UInt8)

/-- The octets of a tag.  Without a handle the suffix is all of it. -/
def expand? (handles : Handles) (handle : List Char) (suffix : List UInt8) :
    Option (List UInt8) :=
  if handle = [] then some suffix else (handles.lookup handle).map (· ++ suffix)

/-- An anchor and a tag, in either order, and the tokens after them. -/
def properties? (handles : Handles) :
    List Token → Option (Option String × Option (List UInt8) × List Token)
  | .anchor a :: .tag h s :: ts | .tag h s :: .anchor a :: ts =>
    (expand? handles h s).map fun t => (some (String.ofList a), some t, ts)
  | .anchor a :: ts => some (some (String.ofList a), none, ts)
  | .tag h s :: ts => (expand? handles h s).map fun t => (none, some t, ts)
  | ts => some (none, none, ts)

/-- Where a node stands: inside of brackets or braces, as a root or an item of a block, or
as a key or a value of a block.  Items without indentation can only stand as the last. -/
inductive Position
  | flow
  | block
  | member
  deriving DecidableEq, Repr

/-- Whether a token is where the node of a block's member or item would begin, so that the
node is left out. -/
def endsMember : List Token → Bool
  | .key :: _ | .value :: _ | .blockEnd :: _ => true
  | _ => false

def endsItem : List Token → Bool
  | .entry :: _ | .blockEnd :: _ => true
  | _ => false

/-- The same inside of brackets, and inside of braces. -/
def endsFlowItem : List Token → Bool
  | .comma :: _ | .flowSeqEnd :: _ => true
  | _ => false

def endsFlowMember : List Token → Bool
  | .comma :: _ | .flowMapEnd :: _ => true
  | _ => false

/-- The tokens after the comma that comes between items. -/
def afterComma? (first : Bool) : List Token → Option (List Token)
  | .comma :: ts => if first then some (.comma :: ts) else some ts
  | ts => if first then some ts else none

/-! ## Reading nodes

Each call takes one unit of fuel.  Between two calls that take no token, one takes a
token, so that a fuel of twice the number of tokens is enough. -/

mutual

/-- The node at the front, and the tokens after it. -/
def read? (handles : Handles) :
    Nat → Position → List Token → Option (Node String × List Token)
  | 0, _, _ => none
  | _ + 1, _, .alias a :: ts => some (.alias (String.ofList a), ts)
  | fuel + 1, position, ts => do
    let (anchor, octets, ts) ← properties? handles ts
    let tag := octets.bind Tag.ofOctets?
    let left :=
      if anchor.isNone ∧ octets.isNone then none else some (.scalar anchor tag [] true, ts)
    match ts with
    | .scalar text plain :: ts =>
      some (.scalar anchor tag text plain, ts)
    | .flowSeqStart :: ts => do
      let (items, ts) ← flowItems? handles fuel true ts
      some (.seq anchor tag items, ts)
    | .flowMapStart :: ts => do
      let (entries, ts) ← flowEntries? handles fuel true ts
      some (.map anchor tag entries, ts)
    | .blockSeqStart :: ts =>
      if position = .flow then left
      else do
        let (items, ts) ← items? handles fuel ts
        some (.seq anchor tag items, ts)
    | .blockMapStart :: ts =>
      if position = .flow then left
      else do
        let (entries, ts) ← entries? handles fuel ts
        some (.map anchor tag entries, ts)
    | .entry :: _ =>
      if position ≠ .member then left
      else do
        let (items, ts) ← levelItems? handles fuel ts
        some (.seq anchor tag items, ts)
    | _ => left

/-- A node of a block, unless it is left out. -/
def readUnless? (handles : Handles) :
    Nat → Bool → Position → List Token → Option (Node String × List Token)
  | 0, _, _, _ => none
  | fuel + 1, isLeftOut, position, ts =>
    if isLeftOut then some (empty, ts) else read? handles fuel position ts

/-- The items of a block and the end of it. -/
def items? (handles : Handles) :
    Nat → List Token → Option (List (Node String) × List Token)
  | 0, _ => none
  | fuel + 1, .entry :: ts => do
    let (n, ts) ← readUnless? handles fuel (endsItem ts) .block ts
    let (more, ts) ← items? handles fuel ts
    some (n :: more, ts)
  | _ + 1, .blockEnd :: ts => some ([], ts)
  | _ + 1, _ => none

/-- The items of a sequence that is no deeper than the mapping that it belongs to. -/
def levelItems? (handles : Handles) :
    Nat → List Token → Option (List (Node String) × List Token)
  | 0, _ => none
  | fuel + 1, .entry :: ts => do
    let (n, ts) ← readUnless? handles fuel (endsItem ts || endsMember ts) .block ts
    let (more, ts) ← levelItems? handles fuel ts
    some (n :: more, ts)
  | _ + 1, ts => some ([], ts)

/-- The keys and values of a block and the end of it. -/
def entries? (handles : Handles) :
    Nat → List Token → Option (List (Node String × Node String) × List Token)
  | 0, _ => none
  | fuel + 1, .key :: ts => do
    let (k, ts) ← readUnless? handles fuel (endsMember ts) .member ts
    let (v, ts) ← match ts with
      | .value :: ts => readUnless? handles fuel (endsMember ts) .member ts
      | ts => some (empty, ts)
    let (more, ts) ← entries? handles fuel ts
    some ((k, v) :: more, ts)
  | _ + 1, .blockEnd :: ts => some ([], ts)
  | _ + 1, _ => none

/-- The items between brackets and the closing bracket. -/
def flowItems? (handles : Handles) :
    Nat → Bool → List Token → Option (List (Node String) × List Token)
  | 0, _, _ => none
  | _ + 1, _, .flowSeqEnd :: ts => some ([], ts)
  | fuel + 1, first, ts => do
    match ← afterComma? first ts with
    | .flowSeqEnd :: ts => some ([], ts)
    | .key :: ts =>
      let (k, v, ts) ← flowPair? handles fuel ts
      let (more, ts) ← flowItems? handles fuel false ts
      some (.map none none [(k, v)] :: more, ts)
    | ts =>
      let (n, ts) ← read? handles fuel .flow ts
      let (more, ts) ← flowItems? handles fuel false ts
      some (n :: more, ts)

/-- A key and a value that stand between brackets as one item.  Where the key is left out,
the token in its place is passed over, even if it is the colon or the closing bracket. -/
def flowPair? (handles : Handles) :
    Nat → List Token → Option (Node String × Node String × List Token)
  | 0, _ => none
  | fuel + 1, ts => do
    let (k, ts) ← match ts with
      | .value :: ts | .comma :: ts | .flowSeqEnd :: ts => some (empty, ts)
      | ts => read? handles fuel .flow ts
    let (v, ts) ← match ts with
      | .value :: ts => readUnless? handles fuel (endsFlowItem ts) .flow ts
      | ts => some (empty, ts)
    some (k, v, ts)

/-- The keys and values between braces and the closing brace. -/
def flowEntries? (handles : Handles) :
    Nat → Bool → List Token → Option (List (Node String × Node String) × List Token)
  | 0, _, _ => none
  | _ + 1, _, .flowMapEnd :: ts => some ([], ts)
  | fuel + 1, first, ts => do
    match ← afterComma? first ts with
    | .flowMapEnd :: ts => some ([], ts)
    | .key :: ts =>
      let isLeftOut := endsFlowMember ts || ts.head? == some .value
      let (k, ts) ← readUnless? handles fuel isLeftOut .flow ts
      let (v, ts) ← match ts with
        | .value :: ts => readUnless? handles fuel (endsFlowMember ts) .flow ts
        | ts => some (empty, ts)
      let (more, ts) ← flowEntries? handles fuel false ts
      some ((k, v) :: more, ts)
    | ts =>
      let (k, ts) ← read? handles fuel .flow ts
      let (more, ts) ← flowEntries? handles fuel false ts
      some ((k, empty) :: more, ts)

end

/-- The node at the front of the tokens, as the root of a document, and the tokens after
it. -/
def ofTokens? (handles : Handles) (ts : List Token) : Option (Node String × List Token) :=
  read? handles (3 * ts.length + 3) .block ts

end Node

end LintGloss.Yaml
