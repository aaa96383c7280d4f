import Catalog.Query.Entry
import Catalog.StableSort

/-!
# Indexes

An index holds entries in segments, each with the entries of one commit in the order in which they
were added. An entry that has been deleted stays in its segment, struck out, until the segments are
merged. Changes are collected and then committed together, in their order: a deletion strikes the
entries before it, those of the same commit included.

## Main definitions

* `Slot`, `Segment`, `Index`: entries in segments
* `Change`: an entry to add, or a term whose entries are to be deleted
* `Index.commit`: an index after changes
* `Index.cleared`, `Index.merged`: an index without entries, and one with a single segment
-/

namespace Catalog

/-- An entry in a segment. -/
structure Slot where
  entry : Entry
  isLive : Bool

/-- Entries that were committed together. -/
abbrev Segment := List Slot

/-- An index. -/
structure Index where
  fields : List StoreField
  segments : List Segment
  /-- Whether the list of the segments is where it belongs; without it an index is not found. -/
  isListed : Bool

/-- A change of an index. -/
inductive Change where
  | delete (field : String) (value : Payload)
  | add (entry : Entry)

/-- Strikes an entry out if it has a term. -/
def Slot.strike (field : String) (value : Payload) (s : Slot) : Slot :=
  if (s.entry.terms field).contains value then { s with isLive := false } else s

/-- Segments, and the entries that have been added since. -/
structure Draft where
  segments : List Segment
  added : Segment

/-- Makes one more change. -/
def Draft.apply (d : Draft) : Change → Draft
  | .delete field value =>
    ⟨d.segments.map (·.map (Slot.strike field value)), d.added.map (Slot.strike field value)⟩
  | .add e => { d with added := d.added ++ [⟨e, true⟩] }

/-- Whether a segment has an entry that is not struck out. -/
def Segment.isNeeded (s : Segment) : Bool :=
  s.any Slot.isLive

namespace Index

/-- An index without entries. -/
def empty (fields : List StoreField) : Index :=
  ⟨fields, [], true⟩

/-- The segments in the order in which they are looked at: the longest first. -/
def ordered (i : Index) : List Segment :=
  stableSort (fun a b => b.length ≤ a.length) i.segments

/-- The index after changes. What was added becomes a segment of its own, and segments without
entries are given up. -/
def commit (i : Index) (changes : List Change) : Index :=
  let d := changes.foldl Draft.apply ⟨i.segments, []⟩
  { i with segments := (d.segments ++ [d.added]).filter Segment.isNeeded, isListed := true }

/-- The index without its entries. -/
def cleared (i : Index) : Index :=
  { i with segments := [] }

/-- The index with its entries in one segment. Fewer than two segments stay as they are. -/
def merged (i : Index) : Index :=
  if i.segments.length < 2 then i
  else { i with segments := [i.ordered.flatten.filter Slot.isLive].filter Segment.isNeeded }

end Index

end Catalog
