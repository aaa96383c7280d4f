import Catalog.Clause.Descriptor
import Catalog.Query.Relevance
import Catalog.Store.Index

/-!
# Ranking

The documents that a query finds stand in the order of their relevance, those of equal relevance as
they stand in the index. A search may ask for another order: by the values of fields, where what has
no value comes last, or by the distance from the center of an area.

## Main definitions

* `Snapshot`: what a search sees of an index
* `Snapshot.ranking`: the documents that a query finds
* `Candidate`: a found document with its distance
* `compareKeys`, `compareDistance`: the orders that a search may ask for
* `Snapshot.candidates`: what a search finds, in order
-/

namespace Catalog

/-- What a search sees of an index: its segments at some moment. -/
structure Snapshot where
  segments : List Segment

/-- What there is to see of an index. -/
def Index.snapshot (i : Index) : Snapshot := ⟨i.ordered⟩

/-- All entries, those that are struck out included. -/
def Snapshot.corpus (s : Snapshot) : Corpus :=
  s.segments.flatten.map Slot.entry

/-- The entries that are not struck out. -/
def Snapshot.live (s : Snapshot) : List Entry :=
  (s.segments.flatten.filter Slot.isLive).map Slot.entry

/-- The number of entries that are not struck out. -/
def Snapshot.size (s : Snapshot) : Nat := s.live.length

/-- The entries of a segment that a query finds, with their scores. -/
def Segment.found (s : Segment) (c : Corpus) (q : Query) : List (Entry × Float32) :=
  let among := s.map Slot.entry
  let matched := s.filter fun slot => slot.isLive && q.accepts among slot.entry
  matched.map fun slot => (slot.entry, q.score c among slot.entry 1)

/-- Whether the first score is at least as good as the second. -/
def ranksBefore (a b : Entry × Float32) : Bool :=
  !(a.2 < b.2)

/-- The documents that a query finds, the most relevant first. -/
def Snapshot.ranking (s : Snapshot) (q : Query) : List Document :=
  let found := s.segments.flatMap fun segment => segment.found s.corpus q
  (stableSort ranksBefore found).map fun p => p.1.document

/-- A found document, with its distance if there is an area. -/
structure Candidate where
  document : Document
  distanceKm : Option Float

/-- The point that a document has in the fields of an area search. -/
def Document.point? (d : Document) (f : SpatialFields) : Option GeoPoint :=
  match d.stored? f.x .float, d.stored? f.y .float with
  | some (.double x), some (.double y) => some ⟨y.toFloat, x.toFloat⟩
  | _, _ => none

/-- A document as a candidate of an area search, if its point lies in the area. -/
def SpatialFilter.candidate? (f : SpatialFilter) (d : Document) : Option Candidate :=
  match d.point? f.fields with
  | some p => if f.area.contains p then some ⟨d, some (distanceKm f.area.center p)⟩ else none
  | none => none

/-- The documents of a ranking that lie in the area, if there is one. -/
def inArea (spatial : Option SpatialFilter) (ds : List Document) : List Candidate :=
  match spatial with
  | some f => ds.filterMap f.candidate?
  | none => ds.map fun d => ⟨d, none⟩

/-- The order of two values, of which either may be missing: one that is missing comes last in both
directions. -/
def compareValues (isDescending : Bool) : Option Payload → Option Payload → Ordering
  | some a, some b => if isDescending then (a.compare b).swap else a.compare b
  | some _, none => .lt
  | none, some _ => .gt
  | none, none => .eq

/-- The order of two documents by the values of some fields, the first of them first. -/
def compareKeys : List SortKey → Document → Document → Ordering
  | [], _, _ => .eq
  | k :: keys, a, b =>
    (compareValues k.isDescending (a.stored? k.field k.kind) (b.stored? k.field k.kind)).then
      (compareKeys keys a b)

/-- The order of two candidates by distance. -/
def compareDistance (a b : Candidate) : Ordering :=
  match a.distanceKm, b.distanceKm with
  | some x, some y => compare (Double.ofFloat x).order (Double.ofFloat y).order
  | _, _ => .eq

/-- The order of two candidates that a search asks for. -/
def compareCandidates (keys : List SortKey) (a b : Candidate) : Ordering :=
  (compareKeys keys a.document b.document).then (compareDistance a b)

/-- Candidates in the order that a search asks for; what it does not tell apart stays in order. -/
def sortCandidates (keys : List SortKey) (cs : List Candidate) : List Candidate :=
  stableSort (fun a b => compareCandidates keys a b != .gt) cs

/-- What a search finds, in order and up to a number. Without an area and without keys the order is
that of relevance. -/
def Snapshot.candidates (s : Snapshot) (q : Query) (spatial : Option SpatialFilter)
    (keys : List SortKey) (limit : Nat) : List Candidate :=
  let found := inArea spatial (s.ranking q)
  (if keys.isEmpty && spatial.isNone then found else sortCandidates keys found).take limit

end Catalog
