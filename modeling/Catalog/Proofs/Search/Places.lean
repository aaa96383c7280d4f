import Catalog.Proofs.Search.Ranking
import Catalog.Search.Searcher

/-!
# What a search may find

A search looks at the entries that are not struck out, each among the entries of its segment. Which
of them it finds is settled place by place; scores, sort keys and distances settle the order only.
So apart from the order, and from the number up to which a search goes, its candidates are the
places that it selects.

## Main definitions

* `Place`: an entry that is not struck out, among the entries of its segment
* `Snapshot.places`: all places of a snapshot
* `SpatialFilter.liesIn`: whether the point of a document lies in the circle of an area
* `SpatialFilter.selects`, `QueryDescriptor.selects`: whether a search finds a place
* `QueryDescriptor.candidate`: what it makes of the place

## Main results

* `Snapshot.ranking_perm`: the documents of a ranking
* `Snapshot.candidates_perm`: the candidates of a search
-/

namespace Catalog

/-- An entry that is not struck out, among the entries of its segment. -/
structure Place where
  among : List Entry
  entry : Entry

/-- The document of a place. -/
def Place.document (p : Place) : Document := p.entry.document

/-- The places of a segment. -/
def Segment.places (s : Segment) : List Place :=
  (s.filter Slot.isLive).map fun slot => ⟨s.map Slot.entry, slot.entry⟩

/-- The places of a snapshot. -/
def Snapshot.places (s : Snapshot) : List Place :=
  s.segments.flatMap Segment.places

/-- Whether a query accepts the entry of a place. -/
def Query.finds (q : Query) (p : Place) : Bool :=
  q.accepts p.among p.entry

/-- Whether the point of a document lies in the circle of an area. -/
def SpatialFilter.liesIn (f : SpatialFilter) (d : Document) : Bool :=
  (d.point? f.fields).any f.area.contains

/-- Whether the search for an area alone finds a place: by the bounding box first, then by the
circle. -/
def SpatialFilter.selects (f : SpatialFilter) (p : Place) : Bool :=
  f.query.finds p && f.liesIn p.document

/-- Whether a search finds a place. -/
def QueryDescriptor.selects (d : QueryDescriptor) (p : Place) : Bool :=
  d.toQuery?.any (·.finds p) && d.spatial.all (·.liesIn p.document)

/-- What a search makes of a place that it finds. -/
def QueryDescriptor.candidate (d : QueryDescriptor) (p : Place) : Candidate :=
  ⟨p.document, d.spatial.bind fun f => (p.document.point? f.fields).map (distanceKm f.area.center)⟩

/-! ### Rankings -/

theorem Snapshot.live_eq (s : Snapshot) : s.live = s.places.map Place.entry := by
  rw [live, places, List.filter_flatten, List.map_flatten, List.map_flatMap, List.map_map,
    List.flatMap_def]
  simp only [Segment.places, List.map_map]
  rfl

theorem Snapshot.length_places (s : Snapshot) : s.places.length = s.size := by
  rw [size, live_eq, List.length_map]

/-- What a query finds in a segment are the places of the segment that it accepts. -/
theorem Segment.map_document_found (s : Segment) (c : Corpus) (q : Query) :
    (s.found c q).map (fun e => e.1.document) = (s.places.filter q.finds).map Place.document := by
  rw [found, places, List.filter_map, List.map_map, List.map_map, List.filter_filter]
  simp only [Function.comp_def, Query.finds, Place.document, Bool.and_comm]

/-- **The documents of a ranking** are those of the places that the query accepts. -/
theorem Snapshot.ranking_perm (s : Snapshot) (q : Query) :
    (s.ranking q).Perm ((s.places.filter q.finds).map Place.document) := by
  refine ((stableSort_perm _ _).map _).trans (.of_eq ?_)
  rw [places, List.filter_flatMap, List.map_flatMap, List.map_flatMap]
  exact List.flatMap_congr fun segment _ => segment.map_document_found _ q

/-! ### Candidates -/

theorem SpatialFilter.candidate?_eq (f : SpatialFilter) (d : Document) :
    f.candidate? d = if f.liesIn d then
      some ⟨d, (d.point? f.fields).map (distanceKm f.area.center)⟩ else none := by
  rw [candidate?, liesIn]
  cases d.point? f.fields with
  | none => rfl
  | some p => rfl

/-- The documents that lie in an area, as candidates. -/
theorem inArea_eq (spatial : Option SpatialFilter) (ds : List Document) :
    inArea spatial ds = (ds.filter fun d => spatial.all (·.liesIn d)).map fun d =>
      ⟨d, spatial.bind fun f => (d.point? f.fields).map (distanceKm f.area.center)⟩ := by
  cases spatial with
  | none =>
    have hall : ds.filter (fun d => (none : Option SpatialFilter).all (·.liesIn d)) = ds :=
      List.filter_eq_self.mpr fun _ _ => rfl
    rw [hall]
    rfl
  | some f =>
    rw [inArea, ← List.filterMap_eq_map, ← List.filterMap_eq_filter, List.filterMap_filterMap]
    refine List.filterMap_congr fun d _ => ?_
    rw [f.candidate?_eq, Option.guard]
    simp only [Option.all_some, Option.bind_some]
    split <;> rfl

/-- What a search asks for, without the number up to which it goes, in any order. -/
theorem inArea_ranking_perm {s : Snapshot} {d : QueryDescriptor} {q : Query}
    (hq : d.toQuery? = some q) :
    (inArea d.spatial (s.ranking q)).Perm ((s.places.filter d.selects).map d.candidate) := by
  have hselects : d.selects = fun p => d.spatial.all (·.liesIn p.document) && q.finds p := by
    funext p
    rw [QueryDescriptor.selects, hq, Option.any_some, Bool.and_comm]
  rw [inArea_eq]
  refine (((s.ranking_perm q).filter _).map _).trans (.of_eq ?_)
  rw [List.filter_map, List.map_map, List.filter_filter, hselects]
  rfl

/-- **The candidates of a search** that goes far enough are the places that it selects. -/
theorem Snapshot.candidates_perm {s : Snapshot} {d : QueryDescriptor} {q : Query}
    (hq : d.toQuery? = some q) (keys : List SortKey) {limit : Nat} (hlimit : s.size ≤ limit) :
    (s.candidates q d.spatial keys limit).Perm ((s.places.filter d.selects).map d.candidate) := by
  have hfound := inArea_ranking_perm (s := s) hq
  have hordered : ∀ c : Bool, (if c then inArea d.spatial (s.ranking q)
      else sortCandidates keys (inArea d.spatial (s.ranking q))).Perm
        ((s.places.filter d.selects).map d.candidate) := by
    rintro (_ | _)
    · exact (stableSort_perm _ _).trans hfound
    · exact hfound
  have hlength : ((s.places.filter d.selects).map d.candidate).length ≤ limit := by
    rw [List.length_map]
    exact (List.length_filter_le _ _).trans (s.length_places.trans_le hlimit)
  rw [candidates, List.take_of_length_le ((hordered _).length_eq.trans_le hlength)]
  exact hordered _

end Catalog
