/-!
# TOML values

A TOML text as a tree. A table remembers how it came about, since that decides what may still be
added to it: a table is written once, whether under a header, in braces or by keys of several parts.

## Main definitions

* `Toml.Value`, `Toml.Members`: the tree
* `Members.modifyAt?`: a change of the table at a path
* `Members.define?`: a key with its value
* `Members.openTable?`, `Members.openNext?`: the header of a table, or of one of several tables

## Implementation notes

The way to a table goes through the last of several tables under one header. A key of several parts
makes the tables that it passes; it may pass those that only were on the way to a header, but it
gives no value to them.
-/

namespace Catalog.Toml

/-- How a table came about. -/
inductive TableKind where
  /-- Written in braces, and complete. -/
  | closed
  /-- Written under a header of its own. -/
  | headed
  /-- On the way to a table with a header. -/
  | passed
  /-- Made by a key of several parts. -/
  | dotted
  deriving DecidableEq, Repr

/-- A value. -/
inductive Value where
  | text (s : String)
  | int (n : Int64)
  | float (x : Float)
  | bool (b : Bool)
  /-- A date, a time of day or both, as a text. -/
  | moment (text : String)
  | array (items : List Value)
  | table (kind : TableKind) (members : List (String × Value))
  /-- Tables under one header, of which the last may grow. -/
  | tables (earlier : List (List (String × Value))) (last : List (String × Value))

/-- The keys of a table with their values, each key once. -/
abbrev Members := List (String × Value)

namespace Members

/-- The members with another value for a key, or with one more member. -/
def set (ms : Members) (key : String) (v : Value) : Members :=
  if ms.any fun m => m.1 == key then ms.map fun m => if m.1 == key then (key, v) else m
  else ms ++ [(key, v)]

/-- Changes the members of the table at a path, where tables that are not there yet are made. The
path is that of a key or that of a header. -/
def modifyAt? (isKey : Bool) (change : TableKind → Members → Option Members) :
    List String → TableKind → Members → Option Members
  | [], kind, ms => change kind ms
  | key :: path, _, ms =>
    match ms.lookup key with
    | none =>
      let kind : TableKind := if isKey then .dotted else .passed
      (modifyAt? isKey change path kind []).map fun inner => ms.set key (.table kind inner)
    | some (.table kind inner) =>
      if kind == .closed || (isKey && kind == .headed) then none
      else (modifyAt? isKey change path kind inner).map fun inner => ms.set key (.table kind inner)
    | some (.tables earlier last) =>
      (modifyAt? isKey change path .headed last).map fun last => ms.set key (.tables earlier last)
    | some _ => none

/-- Gives a value to a key behind a path of keys, unless it has one. -/
def define? (path : List String) (key : String) (v : Value) (ms : Members) : Option Members :=
  modifyAt? true (fun kind inner =>
    if (kind == .dotted) == path.isEmpty || (inner.lookup key).isSome then none
    else some (inner ++ [(key, v)])) path .headed ms

/-- Opens a table by its header. It may have been passed, but not have been written. -/
def openTable? (path : List String) (key : String) (ms : Members) : Option Members :=
  modifyAt? false (fun _ inner =>
    match inner.lookup key with
    | none => some (inner ++ [(key, .table .headed [])])
    | some (.table .passed members) => some (inner.set key (.table .headed members))
    | some _ => none) path .headed ms

/-- Opens one more of several tables by their header. -/
def openNext? (path : List String) (key : String) (ms : Members) : Option Members :=
  modifyAt? false (fun _ inner =>
    match inner.lookup key with
    | none => some (inner ++ [(key, .tables [] [])])
    | some (.tables earlier last) => some (inner.set key (.tables (earlier ++ [last]) []))
    | some _ => none) path .headed ms

/-- Gives a value to a key in the table under a header. -/
def defineUnder? (header path : List String) (key : String) (v : Value) (ms : Members) :
    Option Members :=
  modifyAt? false (fun _ inner => inner.define? path key v) header .headed ms

end Members

end Catalog.Toml
