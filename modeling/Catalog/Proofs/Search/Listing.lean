import Catalog.Proofs.Search.Ordering

/-!
# Listing all records

A listing finds every document that is there, and for the relevance ranking they all count the same.
So it shows the records as they stand in the index, put in the order of the sort keys if there are
any. It goes as far as there are records, whatever number a search goes up to, and its total is the
number of its pages.

## Main definitions

* `Snapshot.listed`: all documents that are there, as they stand in the index
* `Snapshot.listing`: the same, in the order of some keys

## Main results

* `Snapshot.ranking_all`: the relevance ranking of everything is the index
* `Snapshot.isStableSort_iff_eq_listing`: what the order of a listing is
* `Searcher.exists_listing`: the pages of a listing are all records in that order
-/

namespace Catalog

/-! ### Everything that is there -/

namespace Snapshot

variable {s : Snapshot} {keys : List SortKey}

/-- All documents that are there, as they stand in the index. -/
def listed (s : Snapshot) : List Candidate :=
  s.live.map fun e => ⟨e.document, none⟩

/-- All documents that are there, in the order of some keys. -/
def listing (s : Snapshot) (keys : List SortKey) : List Candidate :=
  s.ordering .all none keys

theorem length_listed (s : Snapshot) : s.listed.length = s.size := by
  rw [listed, List.length_map, size]

/-- In the ranking of everything all entries have one score. -/
theorem found_all (s : Snapshot) (c : Corpus) :
    (s.segments.flatMap fun segment => segment.found c .all) =
      s.live.map fun e => (e, (1 : Float32)) := by
  have hscore (among : List Entry) (e : Entry) : Query.score c among e 1 .all = 1 := by
    simp [Query.score, Query.accepts]
  rw [live, List.map_map, List.filter_flatten, List.map_flatten, List.map_map, List.flatMap_def]
  refine congrArg List.flatten (List.map_congr_left fun segment _ => ?_)
  simp only [Segment.found, Query.accepts, Bool.and_true, hscore]
  rfl

/-- **The relevance ranking of everything is the index.** -/
theorem ranking_all (s : Snapshot) : s.ranking .all = s.live.map Entry.document := by
  have htied : ∀ a ∈ s.live.map (fun e => (e, (1 : Float32))),
      ∀ b ∈ s.live.map (fun e => (e, (1 : Float32))), ranksBefore a b = true := by
    have hone : ¬ (1 : Float32) < 1 := by decide
    simp only [List.forall_mem_map, ranksBefore, hone, decide_false, Bool.not_false, implies_true]
  simp only [ranking, found_all, stableSort_of_forall htied, List.map_map]
  rfl

theorem inArea_ranking_all (s : Snapshot) : inArea none (s.ranking .all) = s.listed := by
  rw [ranking_all, inArea, listed, List.map_map]
  rfl

/-- **The order of a listing** is that of the index, put in the order of the keys. -/
theorem isStableSort_iff_eq_listing {l : List Candidate} :
    IsStableSort (Candidate.Precedes keys) s.listed l ↔ l = s.listing keys := by
  rw [← inArea_ranking_all, isStableSort_iff_eq_ordering, listing]

theorem listing_perm : (s.listing keys).Perm s.listed :=
  (isStableSort_iff_eq_listing.mpr rfl).perm

theorem length_listing : (s.listing keys).length = s.size :=
  listing_perm.length_eq.trans s.length_listed

end Snapshot

/-! ### The pages -/

namespace Searcher

variable {ρ : Type} {x : Searcher ρ} {size : Nat} {sort : List SortOption} {keys : List SortKey}

/-- What is listed has no distance, so a hit is just the record. -/
theorem mapM_decode_listing {records : List ρ}
    (h : (x.snapshot.listing keys).mapM
      (fun c => x.store.schema.ofDocument x.type.blank c.document) = .ok records) :
    (x.snapshot.listing keys).mapM x.decode = .ok (records.map fun r => ⟨r, none⟩) := by
  have hplain : ∀ c ∈ x.snapshot.listing keys, c.distanceKm = none := by
    intro c hc
    obtain ⟨e, -, rfl⟩ := List.mem_map.mp (Snapshot.listing_perm.mem_iff.mp hc)
    rfl
  rw [mapM_eq_ok_iff] at h ⊢
  rw [List.forall₂_map_right_iff]
  refine ((List.forall₂_and_left _ _).mpr ⟨hplain, h⟩).imp fun c r hc => ?_
  simp only [decode, hc.2, hc.1]

/-- A listing is a page of all that is there, with the number of pages as its total. -/
theorem allPaged_eq (hsort : x.store.scope.sortKeys sort = .ok keys) (page : Int) :
    x.allPaged page size sort = (x.resultPage (x.snapshot.listing keys) page size).map fun p =>
      { p with total := pageCount x.count size } := by
  have hall : x.snapshot.candidates .all none keys x.count = x.snapshot.listing keys := by
    rw [Snapshot.candidates_eq_take]
    exact List.take_of_length_le Snapshot.length_listing.le
  rw [allPaged, hsort]
  simp only [bind, Except.bind, hall]
  cases x.resultPage (x.snapshot.listing keys) page size <;> rfl

/-- A listing does not depend on the number up to which searches go. -/
theorem allPaged_upTo (m : Nat) (page : Int) :
    (x.upTo m).allPaged page size sort = x.allPaged page size sort := rfl

/-- A page of a listing, by the documents in its window. -/
theorem exists_allPaged (hdecodes : x.Decodes) (hsort : x.store.scope.sortKeys sort = .ok keys)
    (page : Int) (size : Nat) :
    ∃ p, x.allPaged page size sort = .ok p ∧ p.total = pageCount x.count size ∧
      p.hits.length = (paginate (x.snapshot.listing keys) page size).1.length := by
  obtain ⟨hits, hhits⟩ : ∃ hits,
      (paginate (x.snapshot.listing keys) page size).1.mapM x.decode = .ok hits := by
    refine exists_mapM_of_forall fun c hc => ?_
    have hlisted := Snapshot.listing_perm.mem_iff.mp (mem_of_mem_paginate hc)
    obtain ⟨e, he, rfl⟩ := List.mem_map.mp hlisted
    obtain ⟨r, hr⟩ := hdecodes e he
    exact ⟨⟨r, none⟩, by simp only [decode, hr]⟩
  refine ⟨⟨hits, pageCount x.count size⟩, ?_, rfl, (mapM_eq_ok_iff.mp hhits).length_eq.symm⟩
  rw [allPaged_eq hsort, resultPage_of_mapM hhits]
  rfl

/-- The pages of a listing, one after the other, are all records. -/
theorem exists_allPaged_pages (hsort : x.store.scope.sortKeys sort = .ok keys) (hsize : 0 < size)
    (hcount : x.count ≤ wordMax) {records : List ρ}
    (hrecords : (x.snapshot.listing keys).mapM
      (fun c => x.store.schema.ofDocument x.type.blank c.document) = .ok records) :
    ∃ pages, (List.range (pageCount x.count size)).mapM
        (fun (k : Nat) => x.allPaged (k + 1) size sort) = .ok pages ∧
      pages.flatMap ResultPage.records = records := by
  have hlength : (x.snapshot.listing keys).length = x.count := Snapshot.length_listing
  obtain ⟨pages, hpages, hhits⟩ :=
    exists_pages (hlength.trans_le hcount) hsize (mapM_decode_listing hrecords)
  rw [hlength] at hpages
  refine ⟨pages.map fun p => { p with total := pageCount x.count size }, ?_, ?_⟩
  · rw [mapM_eq_ok_iff, List.forall₂_map_right_iff]
    refine (mapM_eq_ok_iff.mp hpages).imp fun k p hp => ?_
    rw [allPaged_eq hsort, hp]
    rfl
  · have hrecord : pages.flatMap ResultPage.records =
        (pages.flatMap ResultPage.hits).map Hit.record := List.map_flatMap.symm
    rw [List.flatMap_map]
    exact hrecord.trans (by rw [hhits, List.map_map, Function.comp_def, List.map_id'])

/-- **The pages of a listing are all records**, in the order of the sort keys, what they do not tell
apart as it stands in the index. The total is the number of pages, on every page; just those pages
show anything, and a page number below one means the first page. None of this depends on the number
up to which searches go. -/
theorem exists_listing (hdecodes : x.Decodes) (hsort : x.store.scope.sortKeys sort = .ok keys)
    (hsize : 0 < size) (hcount : x.count ≤ wordMax) :
    ∃ records : List ρ,
      (∀ l, IsStableSort (Candidate.Precedes keys) x.snapshot.listed l ↔
        l = x.snapshot.listing keys) ∧
      (x.snapshot.listing keys).mapM
        (fun c => x.store.schema.ofDocument x.type.blank c.document) = .ok records ∧
      (∃ pages, (List.range (pageCount x.count size)).mapM
          (fun (k : Nat) => x.allPaged (k + 1) size sort) = .ok pages ∧
        pages.flatMap ResultPage.records = records) ∧
      (∀ page, ∃ p, x.allPaged page size sort = .ok p ∧ p.total = pageCount x.count size ∧
        (page ≤ 0 → x.allPaged 1 size sort = .ok p) ∧
        (0 < page → (p.records ≠ [] ↔ page ≤ pageCount x.count size))) ∧
      ∀ m page, (x.upTo m).allPaged page size sort = x.allPaged page size sort := by
  obtain ⟨records, hrecords⟩ : ∃ records, (x.snapshot.listing keys).mapM
      (fun c => x.store.schema.ofDocument x.type.blank c.document) = .ok records := by
    refine exists_mapM_of_forall fun c hc => ?_
    obtain ⟨e, he, rfl⟩ := List.mem_map.mp (Snapshot.listing_perm.mem_iff.mp hc)
    exact hdecodes e he
  refine ⟨records, fun l => Snapshot.isStableSort_iff_eq_listing, hrecords,
    exists_allPaged_pages hsort hsize hcount hrecords, fun page => ?_, allPaged_upTo⟩
  obtain ⟨p, hp, htotal, hlength⟩ := exists_allPaged hdecodes hsort page size
  refine ⟨p, hp, htotal, fun hpage => ?_, fun hpage => ?_⟩
  · have hfirst : paginate (x.snapshot.listing keys) page size =
        paginate (x.snapshot.listing keys) 1 size := paginate_of_le_one _ (by omega) size
    rw [← hp, allPaged_eq hsort, allPaged_eq hsort, resultPage, resultPage, hfirst]
  · obtain ⟨n, rfl⟩ : ∃ n : Nat, page = n + 1 := ⟨(page - 1).toNat, by omega⟩
    have hword : (x.snapshot.listing keys).length ≤ wordMax :=
      Snapshot.length_listing.trans_le hcount
    have hshown := paginate_ne_nil_iff hword hsize n
    rw [Snapshot.length_listing] at hshown
    rw [ResultPage.records, Ne, List.map_eq_nil_iff, ← List.length_eq_zero_iff, hlength,
      List.length_eq_zero_iff, ← Ne, hshown]
    show n < pageCount x.count size ↔ _
    omega

/-- Of five shops a listing with room for two on a page has three pages, the last of which has the
shop with the least stock; so has a listing of a searcher whose searches find nothing. -/
theorem exists_listing_mixedShops :
    (∃ pages, (List.range 3).mapM
        (fun (k : Nat) => mixedShops.allPaged (k + 1) 2 byCategoryAndStock) = .ok pages ∧
      (pages.flatMap ResultPage.records).map (·.id.text) = ["e", "d", "c", "b", "a"]) ∧
    (∃ p, (mixedShops.upTo 0).allPaged 3 2 byCategoryAndStock = .ok p ∧ p.total = 3 ∧
      p.records ≠ []) ∧
    ∃ p, mixedShops.allPaged 4 2 byCategoryAndStock = .ok p ∧ p.total = 3 ∧ p.records = [] := by
  obtain ⟨keys, hsort⟩ : ∃ keys, mixedShops.store.scope.sortKeys byCategoryAndStock = .ok keys :=
    ⟨_, rfl⟩
  have hdecodes : mixedShops.Decodes := by decide +kernel
  have hcount : mixedShops.count = 5 := by decide +kernel
  have htotal : pageCount mixedShops.count 2 = 3 := by rw [hcount]; decide
  obtain ⟨records, -, hrecords, ⟨pages, hpages, rfl⟩, hpage, hlimit⟩ :=
    exists_listing hdecodes hsort Nat.two_pos (hcount.trans_le (by decide))
  rw [htotal] at hpages hpage
  refine ⟨⟨pages, hpages, ?_⟩, ?_, ?_⟩
  · have hnames : ((List.range 3).mapM fun (k : Nat) =>
        mixedShops.allPaged (k + 1) 2 byCategoryAndStock).toOption.map
          (fun pages => (pages.flatMap ResultPage.records).map (·.id.text)) =
        some ["e", "d", "c", "b", "a"] := by decide +kernel
    rw [hpages] at hnames
    exact Option.some.inj hnames
  · obtain ⟨p, hp, hthree, -, hshown⟩ := hpage 3
    exact ⟨p, (hlimit 0 3).trans hp, hthree, (hshown (by decide)).mpr (by decide)⟩
  · obtain ⟨p, hp, hthree, -, hshown⟩ := hpage 4
    exact ⟨p, hp, hthree, by_contra fun hne => absurd ((hshown (by decide)).mp hne) (by decide)⟩

end Searcher

end Catalog
