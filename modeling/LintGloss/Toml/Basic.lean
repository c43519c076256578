/-!
# TOML tables

A TOML document as far as its tables go: every value that is no table is only known
to be one.  Tables come about in three ways: by a header of their own, because
something deeper needs them, or by a dotted key; and which way it was decides what
may be added to them later.  An inline table is complete where it is written.

`define?` adds a value, `header?` opens a table and `arrayHeader?` the next table of
an array; they fail on what has been defined before.
-/

namespace LintGloss

/-- How a table has come about. -/
inductive Toml.Origin
  | header
  | implied
  | dotted
  deriving DecidableEq, Repr

inductive Toml
  /-- A value that is no table. -/
  | value
  | inline (entries : List (String × Toml))
  | table (origin : Toml.Origin) (entries : List (String × Toml))
  /-- An array of tables under headers, by its last table. -/
  | tables (last : List (String × Toml))
  deriving Repr, Inhabited

namespace Toml

abbrev Entries := List (String × Toml)

/-- The value of a key in a table; no other value has keys. -/
def get? (key : String) : Toml → Option Toml
  | .inline entries | .table _ entries => entries.lookup key
  | _ => none

def isTable : Toml → Bool
  | .inline _ | .table .. => true
  | _ => false

/-- Puts a value in the place of an old one, or at the end. -/
def put (key : String) (v : Toml) : Entries → Entries
  | [] => [(key, v)]
  | (k, w) :: rest => if k = key then (k, v) :: rest else (k, w) :: put key v rest

/-- Changes the table at the end of a path.  Tables that are missing on the way are added.
A dotted path must not lead through a table that has a header; no path leads through a
value or a complete table.  The change is told whether the table is from a dotted key. -/
def alter? (dotted : Bool) (change : Bool → Entries → Option Entries) :
    List String → Bool → Entries → Option Entries
  | [], here, entries => change here entries
  | key :: path, _, entries =>
    match entries.lookup key with
    | none => do
      let sub ← alter? dotted change path dotted []
      some (put key (.table (if dotted then .dotted else .implied) sub) entries)
    | some (.table origin sub) =>
      if dotted ∧ origin = .header then none
      else do
        let sub ← alter? dotted change path (origin = .dotted) sub
        some (put key (.table origin sub) entries)
    | some (.tables last) => do
      let last ← alter? dotted change path false last
      some (put key (.tables last) entries)
    | some _ => none

/-- Adds a value under a new key.  A table that is there through dotted keys takes only
dotted keys, and any other table only a key without dots. -/
def define? (path : List String) (key : String) (v : Toml) (entries : Entries) : Option Entries :=
  alter? true (fun here entries =>
    if here == path.isEmpty || (entries.lookup key).isSome then none
    else some (put key v entries)) path false entries

/-- Opens a table under its header.  It may be there only because something deeper needed
it. -/
def header? (path : List String) (key : String) (root : Entries) : Option Entries :=
  alter? false (fun _ entries =>
    match entries.lookup key with
    | none => some (put key (.table .header []) entries)
    | some (.table .implied sub) => some (put key (.table .header sub) entries)
    | some _ => none) path false root

def arrayHeader? (path : List String) (key : String) (root : Entries) : Option Entries :=
  alter? false (fun _ entries =>
    match entries.lookup key with
    | none | some (.tables _) => some (put key (.tables []) entries)
    | some _ => none) path false root

def defineUnder? (header : List String) (path : List String) (key : String) (v : Toml)
    (root : Entries) : Option Entries :=
  alter? false (fun _ entries => define? path key v entries) header false root

end Toml

end LintGloss
