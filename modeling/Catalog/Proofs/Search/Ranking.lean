import Catalog.Proofs.Store.Slots
import Catalog.Search.Ranking

/-!
# What a query finds

A query finds the documents of the entries that it accepts, those that are struck out apart. The
scores of the entries and the order of the segments settle where a document stands in the ranking,
and have no say in whether it is there.

## Main results

* `Query.accepts_allOf`: a conjunction accepts what all of its parts accept
* `Index.mem_ranking_iff`: the documents of a ranking
* `Index.mem_ranking_iff_of_accepts`: those of a query that looks at single entries only
-/

namespace Catalog

namespace Query

theorem verdicts_eq_map (among : List Entry) (e : Entry) (parts : List (Occur × Query)) :
    verdicts among e parts = parts.map fun p => (p.1, accepts among e p.2) := by
  induction parts with
  | nil => rw [verdicts, List.map_nil]
  | cons p parts ih => rw [verdicts, List.map_cons, ih]

/-- A combination that only requires matches if there is a part and all parts match. -/
theorem combine_map_must (verdicts : List Bool) :
    combine (verdicts.map (Occur.must, ·)) = (!verdicts.isEmpty && verdicts.all fun b => b) := by
  have hfilter (p : Occur) (parts : List Bool) :
      (parts.map (Occur.must, ·)).filter (fun v => v.1 == p) =
        if p = .must then parts.map (Occur.must, ·) else [] := by
    induction parts with
    | nil => cases p <;> rfl
    | cons b parts ih =>
      rw [List.map_cons, List.filter_cons, ih]
      cases p <;> rfl
  rw [combine, hfilter, hfilter, hfilter, if_pos rfl, if_neg (by decide), if_neg (by decide),
    List.all_map, List.isEmpty_map]
  cases verdicts with
  | nil => rfl
  | cons b verdicts => simp [Function.comp_def]

/-- **A conjunction accepts what all of its parts accept**; one without parts accepts nothing. -/
theorem accepts_allOf (among : List Entry) (e : Entry) (queries : List Query) :
    accepts among e (allOf queries) = (!queries.isEmpty && queries.all (accepts among e)) := by
  have hverdicts : verdicts among e (queries.map (Occur.must, ·)) =
      (queries.map (accepts among e)).map (Occur.must, ·) := by
    rw [verdicts_eq_map, List.map_map, List.map_map]
    rfl
  rw [allOf, accepts, hverdicts, combine_map_must, List.isEmpty_map, List.all_map]
  rfl

theorem accepts_allOf_singleton (among : List Entry) (e : Entry) (q : Query) :
    accepts among e (allOf [q]) = accepts among e q := by
  rw [accepts_allOf, List.all_cons, List.all_nil, Bool.and_true]
  rfl

end Query

namespace Index

variable {i : Index} {q : Query} {d : Document}

/-- **The documents of a ranking** are those of the entries that the query accepts among the entries
of their segment. -/
theorem mem_ranking_iff : d ∈ i.snapshot.ranking q ↔
    ∃ segment ∈ i.segments, ∃ slot ∈ segment, slot.isLive = true ∧
      q.accepts (segment.map Slot.entry) slot.entry = true ∧ slot.entry.document = d := by
  have hsegments {segment : Segment} : segment ∈ i.snapshot.segments ↔ segment ∈ i.segments :=
    mem_stableSort
  rw [Snapshot.ranking, List.mem_map]
  constructor
  · rintro ⟨found, hfound, rfl⟩
    obtain ⟨segment, hsegment, hfound⟩ := List.mem_flatMap.mp (mem_stableSort.mp hfound)
    obtain ⟨slot, hslot, rfl⟩ := List.mem_map.mp hfound
    obtain ⟨hslot, haccepts⟩ := List.mem_filter.mp hslot
    rw [Bool.and_eq_true] at haccepts
    exact ⟨segment, hsegments.mp hsegment, slot, hslot, haccepts.1, haccepts.2, rfl⟩
  · rintro ⟨segment, hsegment, slot, hslot, hlive, haccepts, rfl⟩
    refine ⟨(slot.entry, q.score i.snapshot.corpus (segment.map Slot.entry) slot.entry 1),
      mem_stableSort.mpr ?_, rfl⟩
    refine List.mem_flatMap.mpr ⟨segment, hsegments.mpr hsegment, ?_⟩
    refine List.mem_map.mpr ⟨slot, List.mem_filter.mpr ⟨hslot, ?_⟩, rfl⟩
    rw [Bool.and_eq_true]
    exact ⟨hlive, haccepts⟩

theorem mem_liveDocuments_iff : d ∈ liveDocuments i.slots ↔
    ∃ segment ∈ i.segments, ∃ slot ∈ segment, slot.isLive = true ∧ slot.entry.document = d := by
  rw [liveDocuments, Multiset.mem_coe, List.mem_map]
  constructor
  · rintro ⟨slot, hslot, rfl⟩
    obtain ⟨hslot, hlive⟩ := List.mem_filter.mp hslot
    obtain ⟨segment, hsegment, hslot⟩ := List.mem_flatten.mp hslot
    exact ⟨segment, hsegment, slot, hslot, hlive, rfl⟩
  · rintro ⟨segment, hsegment, slot, hslot, hlive, rfl⟩
    exact ⟨slot, List.mem_filter.mpr ⟨List.mem_flatten.mpr ⟨segment, hsegment, hslot⟩, hlive⟩, rfl⟩

/-- A query that settles, whatever the other entries are, whether it accepts the entries of a
document finds the document if it is there and accepted. -/
theorem mem_ranking_iff_of_accepts {accepted : Prop}
    (h : ∀ slot ∈ i.slots, slot.entry.document = d →
      ∀ among, q.accepts among slot.entry = true ↔ accepted) :
    d ∈ i.snapshot.ranking q ↔ d ∈ liveDocuments i.slots ∧ accepted := by
  rw [mem_ranking_iff, mem_liveDocuments_iff]
  constructor
  · rintro ⟨segment, hsegment, slot, hslot, hlive, haccepts, rfl⟩
    have hmem : slot ∈ i.slots := List.mem_flatten.mpr ⟨segment, hsegment, hslot⟩
    exact ⟨⟨segment, hsegment, slot, hslot, hlive, rfl⟩, (h slot hmem rfl _).mp haccepts⟩
  · rintro ⟨⟨segment, hsegment, slot, hslot, hlive, rfl⟩, haccepted⟩
    have hmem : slot ∈ i.slots := List.mem_flatten.mpr ⟨segment, hsegment, hslot⟩
    exact ⟨segment, hsegment, slot, hslot, hlive, (h slot hmem rfl _).mpr haccepted, rfl⟩

end Index

end Catalog
