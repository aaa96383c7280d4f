import Catalog.Proofs.Search.Combined
import Catalog.Proofs.Search.Order

/-!
# The pages of a search in order

What a search finds has one order, which does not depend on the number up to which the search goes:
the relevance ranking, put in the order of the sort keys and of the distances. The pages are cut
from the beginning of it. So a search that goes less far shows the first of the records that a
search shows that goes farther.

## Main definitions

* `Snapshot.ordering`: all that a search finds, in order
* `Searcher.upTo`: a searcher whose searches go up to a number of records

## Main results

* `Snapshot.isStableSort_iff_eq_ordering`: what the order is
* `Searcher.exists_ordering`: the pages of a search are the beginning of one order
-/

namespace Catalog

/-! ### All that is found -/

namespace Snapshot

variable {s : Snapshot} {q : Query} {spatial : Option SpatialFilter} {keys : List SortKey}

/-- All that a search finds, in order. -/
def ordering (s : Snapshot) (q : Query) (spatial : Option SpatialFilter) (keys : List SortKey) :
    List Candidate :=
  let found := inArea spatial (s.ranking q)
  if keys.isEmpty && spatial.isNone then found else sortCandidates keys found

theorem candidates_eq_take (limit : Nat) :
    s.candidates q spatial keys limit = (s.ordering q spatial keys).take limit := rfl

/-- What an area search finds has distances, what any other finds has none. -/
theorem haveDistancesAlike_inArea (spatial : Option SpatialFilter) (ds : List Document) :
    HaveDistancesAlike (inArea spatial ds) := by
  have hsome : ∀ c ∈ inArea spatial ds, c.distanceKm.isSome = spatial.isSome := by
    intro c hc
    cases spatial with
    | none =>
      obtain ⟨d, -, rfl⟩ := List.mem_map.mp hc
      rfl
    | some f =>
      obtain ⟨d, -, hd⟩ := List.mem_filterMap.mp hc
      rw [SpatialFilter.candidate?] at hd
      split at hd
      · split at hd
        · cases hd
          rfl
        · cases hd
      · cases hd
  exact fun a ha b hb => (hsome a ha).trans (hsome b hb).symm

theorem ordering_nil : s.ordering q none [] = inArea none (s.ranking q) := rfl

/-- **The order of what is found** is the relevance ranking, put in the order of the keys and of the
distances, and there is no other. -/
theorem isStableSort_iff_eq_ordering {l : List Candidate} :
    IsStableSort (Candidate.Precedes keys) (inArea spatial (s.ranking q)) l ↔
      l = s.ordering q spatial keys := by
  have hdistances := haveDistancesAlike_inArea spatial (s.ranking q)
  rw [isStableSort_iff_eq_sortCandidates hdistances, ordering]
  split
  case isTrue hplain =>
    obtain ⟨hkeys, hspatial⟩ := Bool.and_eq_true_iff.mp hplain
    obtain rfl := List.isEmpty_iff.mp hkeys
    obtain rfl := Option.isNone_iff_eq_none.mp hspatial
    have hsorted : IsStableSort (Candidate.Precedes []) (inArea none (s.ranking q))
        (sortCandidates [] (inArea none (s.ranking q))) :=
      (isStableSort_iff_eq_sortCandidates hdistances).mpr rfl
    rw [hsorted.eq_of_forall_not]
    -- without keys only distances tell candidates apart, and there are none
    rintro a ha b - (_ | _ | _ | _ | ⟨hm, -, -⟩)
    obtain ⟨d, -, rfl⟩ := List.mem_map.mp ha
    cases hm
  case isFalse => rfl

theorem ordering_perm {d : QueryDescriptor} (hq : d.toQuery? = some q) :
    (s.ordering q d.spatial keys).Perm ((s.places.filter d.selects).map d.candidate) :=
  (isStableSort_iff_eq_ordering.mpr rfl).perm.trans (inArea_ranking_perm hq)

end Snapshot

/-! ### The pages -/

namespace Searcher

variable {ρ : Type}

/-- A searcher whose searches go up to a number of records. -/
def upTo (x : Searcher ρ) (m : Nat) : Searcher ρ :=
  { x with store := { x.store with config := { x.store.config with maxResults := m } } }

@[simp] theorem maxResults_upTo (x : Searcher ρ) (m : Nat) :
    (x.upTo m).store.config.maxResults = m := rfl

variable {x : Searcher ρ} {clauses : List Clause} {d : QueryDescriptor} {q : Query} {size : Nat}
  {sort : List SortOption} {keys : List SortKey} {records : List (Hit ρ)}

/-- A page of a search, cut from the beginning of its order. -/
theorem search_upTo (hbuild : x.store.scope.build clauses = .ok d)
    (hsort : x.store.scope.sortKeys sort = .ok keys) (hq : d.toQuery? = some q)
    (hrecords : (x.snapshot.ordering q d.spatial keys).mapM x.decode = .ok records) {m : Nat}
    (hm : m ≤ wordMax) (n : Nat) :
    (x.upTo m).search clauses (n + 1) size sort =
      .ok ⟨((records.take m).drop (n * size)).take size, min records.length m⟩ := by
  have hlength := (mapM_eq_ok_iff.mp hrecords).length_eq
  have htaken := (List.length_take_le m (x.snapshot.ordering q d.spatial keys)).trans hm
  have hpage : (paginate ((x.snapshot.ordering q d.spatial keys).take m) (n + 1) size).1.mapM
      (x.upTo m).decode = .ok (((records.take m).drop (n * size)).take size) := by
    rw [paginate_fst_eq htaken]
    exact mapM_eq_ok_iff.mpr
      (List.forall₂_take _ (List.forall₂_drop _ (List.forall₂_take _ (mapM_eq_ok_iff.mp hrecords))))
  rw [search_eq (x := x.upTo m) hbuild hsort hq, Snapshot.candidates_eq_take, maxResults_upTo]
  show (x.upTo m).resultPage ((x.snapshot.ordering q d.spatial keys).take m) _ _ = _
  rw [resultPage_of_mapM hpage, List.length_take, hlength, Nat.min_comm]

/-- All pages of a search together are the beginning of its order. -/
theorem allHits_upTo (hbuild : x.store.scope.build clauses = .ok d)
    (hsort : x.store.scope.sortKeys sort = .ok keys) (hq : d.toQuery? = some q) (hsize : 0 < size)
    (hrecords : (x.snapshot.ordering q d.spatial keys).mapM x.decode = .ok records) {m : Nat}
    (hm : m ≤ wordMax) : (x.upTo m).allHits clauses size sort = .ok (records.take m) :=
  allHits_eq (x := x.upTo m) hbuild hsort hq hsize hm
    (mapM_eq_ok_iff.mpr (List.forall₂_take m (mapM_eq_ok_iff.mp hrecords)))

/-- **The pages of a search are the beginning of one order** of all that it finds: the relevance
ranking, put in the order of the sort keys and then of the distances. The order does not depend on
the number up to which the search goes, so one that goes less far shows the first records of one
that goes farther. -/
theorem exists_ordering (hdecodes : x.Decodes) (hne : clauses ≠ [])
    (hbuild : x.store.scope.build clauses = .ok d) (hsort : x.store.scope.sortKeys sort = .ok keys)
    (hsize : 0 < size) :
    ∃ q ordering records, d.toQuery? = some q ∧
      ordering.Perm ((x.snapshot.places.filter d.selects).map d.candidate) ∧
      (∀ l, IsStableSort (Candidate.Precedes keys) (inArea d.spatial (x.snapshot.ranking q)) l ↔
        l = ordering) ∧
      (keys = [] → d.spatial = none →
        ordering = (x.snapshot.ranking q).map fun document => ⟨document, none⟩) ∧
      ordering.mapM x.decode = .ok records ∧
      ∀ m ≤ wordMax,
        (∀ n : Nat, (x.upTo m).search clauses (n + 1) size sort =
          .ok ⟨((records.take m).drop (n * size)).take size,
            min (x.snapshot.places.countP d.selects) m⟩) ∧
        (x.upTo m).allHits clauses size sort = .ok (records.take m) ∧
        ∀ m' ≤ m, (x.upTo m').allHits clauses size sort = .ok ((records.take m).take m') := by
  obtain ⟨q, hq⟩ := SearchScope.exists_toQuery? hbuild hne
  have hperm : (x.snapshot.ordering q d.spatial keys).Perm
      ((x.snapshot.places.filter d.selects).map d.candidate) := Snapshot.ordering_perm hq
  obtain ⟨records, hrecords⟩ : ∃ records,
      (x.snapshot.ordering q d.spatial keys).mapM x.decode = .ok records := by
    refine exists_mapM_of_forall fun c hc => ?_
    obtain ⟨p, hp, rfl⟩ := List.mem_map.mp (hperm.mem_iff.mp hc)
    exact hdecodes.exists_hit d (List.mem_of_mem_filter hp)
  have hcount : records.length = x.snapshot.places.countP d.selects := by
    rw [← (mapM_eq_ok_iff.mp hrecords).length_eq, hperm.length_eq, List.length_map,
      List.countP_eq_length_filter]
  refine ⟨q, x.snapshot.ordering q d.spatial keys, records, hq, hperm,
    fun l => Snapshot.isStableSort_iff_eq_ordering, ?_, hrecords, fun m hm => ⟨?_, ?_, ?_⟩⟩
  · rintro rfl hspatial
    rw [hspatial, Snapshot.ordering_nil]
    rfl
  · intro n
    rw [← hcount]
    exact search_upTo hbuild hsort hq hrecords hm n
  · exact allHits_upTo hbuild hsort hq hsize hrecords hm
  · intro m' hm'
    rw [List.take_take, Nat.min_eq_left hm']
    exact allHits_upTo hbuild hsort hq hsize hrecords (hm'.trans hm)

/-- By category, and those of one category with the greatest stock first. -/
def byCategoryAndStock : List SortOption := [⟨"category", false⟩, ⟨"stock", true⟩]

/-- Of the two shops that are found the one with the greater stock comes first, and is the only one
of a search that goes up to one. -/
theorem exists_ordering_mixedShops :
    (∃ records : List (Hit Shop), ∀ m ≤ wordMax,
      (mixedShops.upTo m).allHits mixedClauses 1 byCategoryAndStock = .ok (records.take m)) ∧
    ((mixedShops.upTo 5).allHits mixedClauses 1 byCategoryAndStock).toOption.map
      (List.map (·.record.id.text)) = some ["d", "a"] ∧
    ((mixedShops.upTo 1).allHits mixedClauses 1 byCategoryAndStock).toOption.map
      (List.map (·.record.id.text)) = some ["d"] := by
  obtain ⟨d, hbuild⟩ : ∃ d, mixedShops.store.scope.build mixedClauses = .ok d := ⟨_, rfl⟩
  obtain ⟨keys, hsort⟩ : ∃ keys, mixedShops.store.scope.sortKeys byCategoryAndStock = .ok keys :=
    ⟨_, rfl⟩
  have hdecodes : mixedShops.Decodes := by decide +kernel
  obtain ⟨-, -, records, -, -, -, -, -, hpages⟩ := exists_ordering hdecodes (List.cons_ne_nil _ _)
    hbuild hsort Nat.one_pos
  exact ⟨⟨records, fun m hm => (hpages m hm).2.1⟩, by decide +kernel, by decide +kernel⟩

end Searcher

end Catalog
