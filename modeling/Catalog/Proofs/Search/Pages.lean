import Catalog.Proofs.Paging
import Catalog.Proofs.Results
import Catalog.Proofs.Search.Places

/-!
# All pages of a search

The number of pages is known from the first one. Read one after the other they are the records of
all candidates, so that, where the store has no more records than a search goes up to, they are the
records of the places that the search selects.

## Main definitions

* `Searcher.readPages`, `Searcher.allHits`: the records of all pages, and of those of a search
* `Searcher.hit`: the record of a place
* `Searcher.Returns`: a search whose pages have the records of some places

## Main results

* `Searcher.exists_pages`: candidates that are records, page by page
* `Searcher.returns_of_selects_iff`: a search returns the places that it selects
-/

namespace Catalog

namespace Searcher

variable {ρ : Type}

/-- The records of all pages, one page after the other. -/
def readPages (page : Int → Except SearchError (ResultPage ρ)) (size : Nat) :
    Except SearchError (List (Hit ρ)) := do
  let first ← page 1
  let pages ← (List.range (pageCount first.total size)).mapM fun (n : Nat) => page (n + 1)
  return pages.flatMap ResultPage.hits

/-- The records of all pages of a search, one page after the other. -/
def allHits (x : Searcher ρ) (clauses : List Clause) (size : Nat) (sort : List SortOption) :
    Except SearchError (List (Hit ρ)) := do
  let first ← x.search clauses 1 size sort
  let pages ← (List.range (pageCount first.total size)).mapM fun (n : Nat) =>
    x.search clauses (n + 1) size sort
  return pages.flatMap ResultPage.hits

/-- The record of a place that a search has selected. -/
def hit (x : Searcher ρ) (d : QueryDescriptor) (p : Place) : Except SearchError (Hit ρ) :=
  x.decode (d.candidate p)

/-- Every document that is there is a record. -/
def Decodes (x : Searcher ρ) : Prop :=
  ∀ e ∈ x.snapshot.live, ∃ r, x.store.schema.ofDocument x.type.blank e.document = .ok r

theorem decodes_iff_all {x : Searcher ρ} : x.Decodes ↔
    (x.snapshot.live.all fun e =>
      (x.store.schema.ofDocument x.type.blank e.document).isOk) = true := by
  rw [Decodes, List.all_eq_true]
  refine forall₂_congr fun e _ => ?_
  cases x.store.schema.ofDocument x.type.blank e.document with
  | ok r => exact iff_of_true ⟨r, rfl⟩ rfl
  | error e => exact iff_of_false nofun nofun

instance (x : Searcher ρ) : Decidable x.Decodes :=
  decidable_of_iff _ decodes_iff_all.symm

variable {x : Searcher ρ} {clauses : List Clause} {size : Nat} {sort : List SortOption}

theorem Decodes.exists_hit (h : x.Decodes) (d : QueryDescriptor) {p : Place}
    (hp : p ∈ x.snapshot.places) : ∃ hit, x.hit d p = .ok hit := by
  have hmem : p.entry ∈ x.snapshot.live := by
    rw [Snapshot.live_eq]
    exact List.mem_map_of_mem hp
  obtain ⟨r, hr⟩ := h _ hmem
  have hdocument : (d.candidate p).document = p.entry.document := rfl
  rw [hit, decode, hdocument, hr]
  cases (d.candidate p).distanceKm with
  | none => exact ⟨_, rfl⟩
  | some km => exact ⟨_, rfl⟩

/-- A search is a page of its candidates. -/
theorem search_eq {d : QueryDescriptor} {q : Query} {keys : List SortKey}
    (hbuild : x.store.scope.build clauses = .ok d) (hsort : x.store.scope.sortKeys sort = .ok keys)
    (hq : d.toQuery? = some q) (page : Int) :
    x.search clauses page size sort =
      x.resultPage (x.snapshot.candidates q d.spatial keys x.store.config.maxResults) page size := by
  rw [search, hbuild, hsort]
  simp only [bind, Except.bind, hq]

/-- A page shows the records of its window. -/
theorem resultPage_of_mapM {cs : List Candidate} {page : Int} {hits : List (Hit ρ)}
    (h : (paginate cs page size).1.mapM x.decode = .ok hits) :
    x.resultPage cs page size = .ok ⟨hits, cs.length⟩ := by
  rw [resultPage]
  simp only [h]
  rfl

/-- **The pages of candidates that are records**, one after the other, are those records. -/
theorem exists_pages {cs : List Candidate} {hits : List (Hit ρ)} (hcs : cs.length ≤ wordMax)
    (hsize : 0 < size) (hhits : cs.mapM x.decode = .ok hits) :
    ∃ pages, (List.range (pageCount cs.length size)).mapM
        (fun (n : Nat) => x.resultPage cs (n + 1) size) = .ok pages ∧
      pages.flatMap ResultPage.hits = hits := by
  rw [← flatMap_paginate hcs hsize] at hhits
  obtain ⟨parts, hparts, rfl⟩ := exists_mapM_mapM hhits
  refine ⟨parts.map fun hits => ⟨hits, cs.length⟩, mapM_eq_ok_iff.mpr ?_, ?_⟩
  · rw [List.forall₂_map_right_iff]
    exact (mapM_eq_ok_iff.mp hparts).imp fun n hits h => resultPage_of_mapM h
  · rw [List.flatMap_map, List.flatMap_id']

/-- **All pages of candidates that are records** have those records. -/
theorem readPages_eq {page : Int → Except SearchError (ResultPage ρ)} {cs : List Candidate}
    {hits : List (Hit ρ)} (hpage : ∀ n, page n = x.resultPage cs n size)
    (hcs : cs.length ≤ wordMax) (hsize : 0 < size) (hhits : cs.mapM x.decode = .ok hits) :
    readPages page size = .ok hits := by
  obtain ⟨first, hfirst⟩ := exists_mapM_of_forall (l := (paginate cs 1 size).1) fun c hc =>
    exists_of_mem_of_mapM hhits (mem_of_mem_paginate hc)
  obtain ⟨pages, hpages, rfl⟩ := exists_pages hcs hsize hhits
  have htotal : x.resultPage cs 1 size = .ok ⟨first, cs.length⟩ := resultPage_of_mapM hfirst
  simp only [readPages, hpage, htotal, bind, Except.bind, hpages]
  rfl

/-- **A search over all its pages** has the records of its candidates. -/
theorem allHits_eq {d : QueryDescriptor} {q : Query} {keys : List SortKey} {hits : List (Hit ρ)}
    (hbuild : x.store.scope.build clauses = .ok d) (hsort : x.store.scope.sortKeys sort = .ok keys)
    (hq : d.toQuery? = some q) (hsize : 0 < size)
    (hword : x.store.config.maxResults ≤ wordMax)
    (hhits : (x.snapshot.candidates q d.spatial keys x.store.config.maxResults).mapM x.decode =
      .ok hits) :
    x.allHits clauses size sort = .ok hits :=
  readPages_eq (search_eq hbuild hsort hq) ((List.length_take_le ..).trans hword) hsize hhits

open scoped Classical in
/-- A search returns, over all its pages, the records of just the wanted places, in some order. -/
def Returns (x : Searcher ρ) (clauses : List Clause) (size : Nat) (sort : List SortOption)
    (wanted : Place → Prop) : Prop :=
  ∃ d hits expected, x.store.scope.build clauses = .ok d ∧
    (x.snapshot.places.filter (wanted ·)).mapM (x.hit d) = .ok expected ∧
    x.allHits clauses size sort = .ok hits ∧ hits.Perm expected

/-- The pages of what a search selects are the records of the places, if it goes up to the number of
records. -/
theorem exists_readPages_of_selects {d : QueryDescriptor} {q : Query} {keys : List SortKey}
    {page : Int → Except SearchError (ResultPage ρ)} (hdecodes : x.Decodes)
    (hq : d.toQuery? = some q) (hpage : ∀ n, page n = x.resultPage
      (x.snapshot.candidates q d.spatial keys x.store.config.maxResults) n size) (hsize : 0 < size)
    (hcount : x.count ≤ x.store.config.maxResults) (hword : x.store.config.maxResults ≤ wordMax) :
    ∃ hits expected, (x.snapshot.places.filter d.selects).mapM (x.hit d) = .ok expected ∧
      readPages page size = .ok hits ∧ hits.Perm expected := by
  obtain ⟨expected, hexpected⟩ : ∃ expected,
      (x.snapshot.places.filter d.selects).mapM (x.hit d) = .ok expected :=
    exists_mapM_of_forall fun p hp => hdecodes.exists_hit d (List.mem_of_mem_filter hp)
  have hplaces : ((x.snapshot.places.filter d.selects).map d.candidate).mapM x.decode =
      .ok expected :=
    mapM_eq_ok_iff.mpr (List.forall₂_map_left_iff.mpr (mapM_eq_ok_iff.mp hexpected))
  obtain ⟨hits, hhits, hperm⟩ :=
    exists_mapM_of_perm (x.snapshot.candidates_perm hq keys hcount) hplaces
  exact ⟨hits, expected, hexpected,
    readPages_eq hpage ((List.length_take_le ..).trans hword) hsize hhits, hperm⟩

/-- **A search returns the places that it selects** if it goes up to the number of records. -/
theorem returns_of_selects_iff {d : QueryDescriptor} {q : Query} {keys : List SortKey}
    (hdecodes : x.Decodes) (hbuild : x.store.scope.build clauses = .ok d)
    (hsort : x.store.scope.sortKeys sort = .ok keys) (hq : d.toQuery? = some q) (hsize : 0 < size)
    (hcount : x.count ≤ x.store.config.maxResults) (hword : x.store.config.maxResults ≤ wordMax)
    {wanted : Place → Prop} (hwanted : ∀ p, d.selects p = true ↔ wanted p) :
    x.Returns clauses size sort wanted := by
  obtain rfl : (fun p => d.selects p = true) = wanted := funext fun p => propext (hwanted p)
  obtain ⟨hits, expected, hexpected, hhits, hperm⟩ := exists_readPages_of_selects hdecodes hq
    (search_eq hbuild hsort hq) hsize hcount hword
  exact ⟨d, hits, expected, hbuild, by simpa using hexpected, hhits, hperm⟩

end Searcher

end Catalog
