import Catalog.Proofs.Search.Chronology
import Catalog.Proofs.Search.Circle

/-!
# The distances of hits

An area search measures the distance of a document by the coordinates that are kept of its point,
the longitude before the latitude, while the record is read from the text of the point. Both come
from the same point, so the distance that a hit shows, and that its record is told, is that of the
record. Searches without an area measure nothing.

## Main definitions

* `Searcher.telling`: a searcher whose records are told their distances in another way
* `Searcher.AnswersWithoutArea`: the pages of searches that ask for no area

## Main results

* `Store.IsBuiltFor.point?_of_ofDocument`: the record that is read has the point that is kept
* `Snapshot.exists_of_mem_ordering`: what a candidate tells of its document
* `Searcher.distances_of_run`: the distances of hits, after any calls
-/

namespace Catalog

variable {σ ρ : Type}

/-! ### The point of a record that is read -/

namespace PropertyType

variable {α : Type} (t : PropertyType α) {a b : α} {p : GeoPoint}

theorem isFaithful_of_toField_geo (h : t.toField a = .ok (some (.geo p))) (hp : p.IsReadable) :
    t.IsFaithful a := by
  induction t with
  | geoPoint => cases h; exact hp
  | option t ih =>
    rintro a rfl
    exact ih h
  | structured β =>
    obtain ⟨s, -, hs⟩ := toField_structured h
    cases hs
  | moment => cases h
  | _ => trivial

theorem toField_of_agrees_geo (h : t.toField a = .ok (some (.geo p))) (hagrees : t.Agrees a b) :
    t.toField b = .ok (some (.geo p)) := by
  induction t with
  | geoPoint =>
    obtain rfl : b = a := hagrees
    exact h
  | option t ih =>
    cases hagrees with
    | some hagrees => exact ih h hagrees
    | none => exact h
  | structured β =>
    obtain ⟨s, -, hs⟩ := toField_structured h
    cases hs
  | _ => cases h

end PropertyType

theorem Property.point?_eq_some_iff {P : Property ρ} {r : ρ} {p : GeoPoint} :
    P.point? r = some p ↔ P.type.toField (P.get r) = .ok (some (.geo p)) := by
  rw [point?]
  split
  · next q h => rw [h, Option.some.injEq, Except.ok.injEq, Option.some.injEq, FieldValue.geo.injEq]
  · next h => exact iff_of_false (Option.some_ne_none p).symm fun hp => h p hp

namespace Store.IsBuiltFor

variable {s : Store ρ} {R : RecordDescription ρ} (h : s.IsBuiltFor R)

include h

/-- **The record that is read has the point that is kept** of the record that was stored. -/
theorem point?_of_ofDocument {P : Property ρ} (hP : P ∈ R.properties) {r₀ r : ρ} {e : Entry}
    (he : s.IsEntryOf r₀ e) {p : GeoPoint} (hp : P.point? r₀ = some p) (hreadable : p.IsReadable)
    (hr : s.schema.ofDocument R.blank e.document = .ok r) : P.point? r = some p := by
  obtain ⟨implicit, himplicit, hentry⟩ := he
  obtain ⟨hd, -⟩ := Store.entry_eq_ok_iff.mp hentry
  have hfield := Property.point?_eq_some_iff.mp hp
  have hcolumn := RecordDescription.column_mem_of_build h.build hP
  rcases Property.read?_toDocument h.nodup himplicit hd hcolumn with ⟨hnone, -⟩ | ⟨v, hv, hread⟩
  · rw [hfield] at hnone
    cases hnone
  · obtain ⟨b, hb, hagrees⟩ :=
      P.type.ofPayload_of_isFaithful hv (P.type.isFaithful_of_toField_geo hfield hreadable)
    rw [Property.ofPayload, hb] at hread
    rw [Property.point?_eq_some_iff, RecordDescription.get_ofDocument h.build hr hP hread]
    exact P.type.toField_of_agrees_geo hfield hagrees

/-- There is a filter for areas only where a property is searched by area, and it reads the fields
of that property. -/
theorem exists_of_spatialFilter {a : SearchArea} {f : SpatialFilter}
    (hf : s.scope.spatialFilter a = .ok f) :
    ∃ P ∈ R.properties, P.binding.isGeo = true ∧ f = ⟨a, .ofProperty P.name⟩ := by
  have hfilter := hf
  rw [SearchScope.spatialFilter] at hfilter
  cases hfound : s.scope.bindings.findSome? Binding.spatial? with
  | none => rw [hfound] at hfilter; cases hfilter
  | some fields =>
    obtain ⟨b, hb, hspatial⟩ := List.exists_of_findSome?_eq_some hfound
    have hgeo : b.isGeo = true := by
      rw [Binding.spatial?] at hspatial
      split at hspatial
      · next hrole => exact beq_iff_eq.mpr hrole
      · cases hspatial
    obtain ⟨c, hc, rfl⟩ := List.mem_map.mp hb
    rw [RecordDescription.columns_of_build h.build] at hc
    obtain ⟨P, hP, rfl⟩ := List.mem_map.mp hc
    refine ⟨P, hP, hgeo, ?_⟩
    rw [h.spatialFilter_eq hP hgeo a] at hf
    exact (Except.ok.inj hf).symm

end Store.IsBuiltFor

/-! ### Candidates and hits -/

/-- **What a candidate tells of its document**: the document is there and lies in the area, if there
is one, and the distance is that of its point from the center. -/
theorem Snapshot.exists_of_mem_ordering {s : Snapshot} {q : Query} {spatial : Option SpatialFilter}
    {keys : List SortKey} {c : Candidate} (hc : c ∈ s.ordering q spatial keys) :
    ∃ place ∈ s.places, c.document = place.document ∧
      (spatial = none → c.distanceKm = none) ∧
      ∀ f, spatial = some f → ∃ p, place.document.point? f.fields = some p ∧
        c.distanceKm = some (distanceKm f.area.center p) := by
  have hfound : c ∈ inArea spatial (s.ranking q) :=
    (Snapshot.isStableSort_iff_eq_ordering.mpr rfl).perm.mem_iff.mp hc
  rw [inArea_eq] at hfound
  obtain ⟨d, hd, rfl⟩ := List.mem_map.mp hfound
  obtain ⟨hranked, hlies⟩ := List.mem_filter.mp hd
  obtain ⟨place, hplace, rfl⟩ := List.mem_map.mp ((s.ranking_perm q).mem_iff.mp hranked)
  refine ⟨place, List.mem_of_mem_filter hplace, rfl, ?_, ?_⟩
  · rintro rfl
    rfl
  · rintro f rfl
    rw [Option.all_some, SpatialFilter.liesIn, Option.any_eq_true] at hlies
    obtain ⟨p, hp, -⟩ := hlies
    exact ⟨p, hp, by rw [Option.bind_some, hp, Option.map_some]⟩

namespace Searcher

variable {x : Searcher ρ}

/-- A hit is a record that is read, and told the distance if there is one. -/
theorem exists_of_decode {c : Candidate} {hit : Hit ρ} (h : x.decode c = .ok hit) :
    ∃ r, x.store.schema.ofDocument x.type.blank c.document = .ok r ∧
      hit = ⟨c.distanceKm.elim r (x.type.setDistance r), c.distanceKm⟩ := by
  rw [decode] at h
  cases hr : x.store.schema.ofDocument x.type.blank c.document with
  | error e => rw [hr] at h; cases h
  | ok r =>
    rw [hr] at h
    refine ⟨r, rfl, ?_⟩
    cases hkm : c.distanceKm with
    | none => simp only [hkm] at h; exact (Except.ok.inj h).symm
    | some km => simp only [hkm] at h; exact (Except.ok.inj h).symm

/-- The hits of a page are decoded from candidates of its search. -/
theorem ShowsSome.exists_of_mem {all : List Candidate} {result : ResultPage ρ}
    (h : x.ShowsSome all result) {hit : Hit ρ} (hhit : hit ∈ result.hits) :
    ∃ c ∈ all, x.decode c = .ok hit := by
  obtain ⟨cs, hsublist, hhits⟩ := h
  obtain ⟨c, hc, hdecode⟩ := (mem_iff_of_mapM hhits hit).mp hhit
  exact ⟨c, hsublist.subset hc, hdecode⟩

/-! ### Searches without an area -/

/-- The same searcher, but records are told their distances in another way. -/
def telling (x : Searcher ρ) (tell : ρ → Float → ρ) : Searcher ρ :=
  { x with type := { x.type with setDistance := tell } }

/-- The pages that a searcher answers with where no area is asked for. -/
inductive AnswersWithoutArea (x : Searcher ρ) (result : ResultPage ρ) : Prop
  | search {clauses : List Clause} {page : Int} {size : Nat} {sort : List SortOption}
      (harea : ∀ c ∈ clauses, c.area? = none) (h : x.search clauses page size sort = .ok result)
  | text {text : String} {properties : List String} {page : Int} {size : Nat}
      {sort : List SortOption} (h : x.searchText text properties page size sort = .ok result)
  | listing {page : Int} {size : Nat} {sort : List SortOption}
      (h : x.allPaged page size sort = .ok result)

theorem spatial_eq_none_of_build {scope : SearchScope} {clauses : List Clause}
    {d : QueryDescriptor} (hbuild : scope.build clauses = .ok d)
    (harea : ∀ c ∈ clauses, c.area? = none) : d.spatial = none := by
  cases hspatial : d.spatial with
  | none => rfl
  | some f =>
    obtain ⟨c, hc, a, ha, -⟩ := (SearchScope.spatial_eq_some_iff hbuild f).mp hspatial
    rw [harea c hc] at ha
    cases ha

/-- The candidates of a search without an area have no distance. -/
theorem distanceKm_eq_none_of_mem_candidates {s : Snapshot} {q : Query} {keys : List SortKey}
    {limit : Nat} {c : Candidate} (hc : c ∈ s.candidates q none keys limit) :
    c.distanceKm = none := by
  have hordered : c ∈ s.ordering q none keys := (List.take_sublist ..).subset hc
  obtain ⟨-, -, -, hnone, -⟩ := Snapshot.exists_of_mem_ordering hordered
  exact hnone rfl

/-- What a record is told does not matter where nothing is told. -/
theorem resultPage_telling (tell : ρ → Float → ρ) {cs : List Candidate}
    (hcs : ∀ c ∈ cs, c.distanceKm = none) (page : Int) (size : Nat) :
    (x.telling tell).resultPage cs page size = x.resultPage cs page size := by
  have hdecode {l : List Candidate} (hl : ∀ c ∈ l, c.distanceKm = none) :
      l.mapM (x.telling tell).decode = l.mapM x.decode := by
    induction l with
    | nil => rfl
    | cons c l ih =>
      obtain ⟨hc, hl⟩ := List.forall_mem_cons.mp hl
      have hhead : (x.telling tell).decode c = x.decode c := by
        rw [decode, decode, hc]
        rfl
      rw [List.mapM_cons, List.mapM_cons, hhead, ih hl]
  rw [resultPage, resultPage]
  simp only [hdecode fun c hc => hcs c (mem_of_mem_paginate hc)]

section Telling

variable (x) (tell : ρ → Float → ρ)

theorem search_telling {clauses : List Clause} (harea : ∀ c ∈ clauses, c.area? = none) (page : Int)
    (size : Nat) (sort : List SortOption) :
    (x.telling tell).search clauses page size sort = x.search clauses page size sort := by
  unfold search
  change (x.store.scope.build clauses).bind _ = (x.store.scope.build clauses).bind _
  cases hbuild : x.store.scope.build clauses with
  | error e => rfl
  | ok d =>
    change (x.store.scope.sortKeys sort).bind _ = (x.store.scope.sortKeys sort).bind _
    refine congrArg _ (funext fun keys => ?_)
    cases hq : d.toQuery? with
    | none => rfl
    | some q =>
      refine resultPage_telling tell (fun c hc => ?_) page size
      have hspatial := spatial_eq_none_of_build hbuild harea
      rw [hspatial] at hc
      exact distanceKm_eq_none_of_mem_candidates hc

theorem searchText_telling (text : String) (properties : List String) (page : Int) (size : Nat)
    (sort : List SortOption) :
    (x.telling tell).searchText text properties page size sort =
      x.searchText text properties page size sort := by
  unfold searchText
  change (x.store.scope.sortKeys sort).bind _ = (x.store.scope.sortKeys sort).bind _
  refine congrArg _ (funext fun keys => ?_)
  change (x.store.scope.freeText text properties).bind _ =
    (x.store.scope.freeText text properties).bind _
  refine congrArg _ (funext fun q? => ?_)
  cases q? with
  | none => rfl
  | some q =>
    exact resultPage_telling tell (fun c => distanceKm_eq_none_of_mem_candidates) page size

theorem allPaged_telling (page : Int) (size : Nat) (sort : List SortOption) :
    (x.telling tell).allPaged page size sort = x.allPaged page size sort := by
  unfold allPaged
  change (x.store.scope.sortKeys sort).bind _ = (x.store.scope.sortKeys sort).bind _
  refine congrArg _ (funext fun keys => ?_)
  have hnone : ∀ c ∈ x.snapshot.candidates .all none keys x.count, c.distanceKm = none :=
    fun c => distanceKm_eq_none_of_mem_candidates
  have hpage := resultPage_telling (x := x) tell hnone page size
  exact congrArg (Except.bind · _) hpage

end Telling

/-- A page of a search without an area shows candidates that have no distance. -/
theorem AnswersWithoutArea.exists_showsSome {result : ResultPage ρ}
    (h : x.AnswersWithoutArea result) :
    ∃ q keys, x.ShowsSome (x.snapshot.ordering q none keys) result := by
  cases h with
  | search harea h =>
    obtain ⟨d, keys, q, hbuild, -, hshows⟩ := exists_showsSome_of_search h
    rw [spatial_eq_none_of_build hbuild harea] at hshows
    exact ⟨q, keys, hshows⟩
  | text h =>
    obtain ⟨keys, q, -, hshows⟩ := exists_showsSome_of_searchText h
    exact ⟨q, keys, hshows⟩
  | listing h =>
    obtain ⟨keys, -, hshows⟩ := exists_showsSome_of_allPaged h
    exact ⟨.all, keys, hshows⟩

/-! ### Distances -/

/-- **The distances of hits.** After any calls on a new index, let the points that are there be
found again in their texts. Every hit of every area search then shows the distance of its own point
from the center, and this is what its record is told. Without an area no hit has a distance: it is
the record that is read, and whatever a record would make of a distance, the answers are the
same. -/
theorem distances_of_run {x : Searcher ρ} {R : RecordDescription ρ} (h : x.store.IsBuiltFor R)
    (htype : x.type = R.recordType) (g : IdGenerator σ) (ids : σ) (calls : List (Call ρ))
    (hsees : x.snapshot = (x.store.newWriter.runCalls x.store g ids calls).1.index.snapshot)
    (hreadable : ∀ P ∈ R.properties, P.binding.isGeo = true → ∀ place ∈ x.snapshot.places,
      ∀ p, place.document.point? (.ofProperty P.name) = some p → p.IsReadable) :
    (∀ clauses page size sort result, x.search clauses page size sort = .ok result →
      ∀ c ∈ clauses, ∀ a, c.area? = some a → ∀ hit ∈ result.hits,
        ∃ P ∈ R.properties, P.binding.isGeo = true ∧ ∃ place ∈ x.snapshot.places, ∃ r p,
          x.store.schema.ofDocument x.type.blank place.document = .ok r ∧ P.point? r = some p ∧
            hit = ⟨x.type.setDistance r (distanceKm a.center p),
              some (distanceKm a.center p)⟩) ∧
    (∀ result, x.AnswersWithoutArea result → ∀ hit ∈ result.hits, hit.distanceKm = none ∧
      ∃ place ∈ x.snapshot.places,
        x.store.schema.ofDocument x.type.blank place.document = .ok hit.record) ∧
    ∀ tell : ρ → Float → ρ,
      (∀ clauses page size sort, (∀ c ∈ clauses, c.area? = none) →
        (x.telling tell).search clauses page size sort = x.search clauses page size sort) ∧
      (∀ property literal,
        (x.telling tell).searchByField property literal = x.searchByField property literal) ∧
      (∀ text properties page size sort,
        (x.telling tell).searchText text properties page size sort =
          x.searchText text properties page size sort) ∧
      ∀ page size sort, (x.telling tell).allPaged page size sort = x.allPaged page size sort := by
  refine ⟨fun clauses page size sort result hsearch c hc a ha hit hhit => ?_,
    fun result hanswers hit hhit => ?_, fun tell =>
      ⟨fun clauses page size sort harea => x.search_telling tell harea page size sort,
        fun property literal => ?_, x.searchText_telling tell, x.allPaged_telling tell⟩⟩
  · obtain ⟨d, keys, q, hbuild, -, hshows⟩ := exists_showsSome_of_search hsearch
    obtain ⟨f, hf, hspatial⟩ := SearchScope.exists_spatialFilter hbuild hc ha
    obtain ⟨P, hP, hgeo, rfl⟩ := h.exists_of_spatialFilter hf
    obtain ⟨c, hc, hdecode⟩ := hshows.exists_of_mem hhit
    obtain ⟨place, hplace, hdocument, -, hdistance⟩ := Snapshot.exists_of_mem_ordering hc
    obtain ⟨p, hp, hkm⟩ := hdistance _ hspatial
    obtain ⟨r, hr, rfl⟩ := exists_of_decode hdecode
    rw [hdocument] at hr
    -- the record that was stored at the place, and its point
    obtain ⟨r₀, hr₀, hpoint⟩ := h.exists_hasPoint_of_run hP hgeo g ids calls (hsees ▸ hplace)
    have hp₀ : P.point? r₀ = some p := hpoint.point?_document.symm.trans hp
    refine ⟨P, hP, hgeo, place, hplace, r, p, hr, ?_, by rw [hkm]; rfl⟩
    rw [htype] at hr
    exact h.point?_of_ofDocument hP hr₀ hp₀ (hreadable P hP hgeo place hplace p hp) hr
  · obtain ⟨q, keys, hshows⟩ := hanswers.exists_showsSome
    obtain ⟨c, hc, hdecode⟩ := hshows.exists_of_mem hhit
    obtain ⟨place, hplace, hdocument, hnone, -⟩ := Snapshot.exists_of_mem_ordering hc
    obtain ⟨r, hr, rfl⟩ := exists_of_decode hdecode
    rw [hnone rfl]
    exact ⟨rfl, place, hplace, hdocument ▸ hr⟩
  · rw [searchByField, searchByField, x.search_telling tell (by simp [Clause.area?])]

/-- A shop in the middle of a circle is found, and told how far it is from there. -/
theorem distances_of_run_origin :
    let x := ofShops [shopAt "a" 1 .origin]
    ∃ result, x.search [wideClause .origin] 1 20 [] = .ok result ∧ result.hits ≠ [] ∧
      ∀ hit ∈ result.hits, ∃ p, hit.distanceKm = some (distanceKm .origin p) ∧
        hit.record.distance = distanceKm .origin p := by
  intro x
  have hgeo : ∀ P ∈ Shop.description.properties, P.binding.isGeo = true → P.name = "location" := by
    decide
  have hpoint : ∀ place ∈ x.snapshot.places,
      place.document.point? (.ofProperty "location") = some .origin := by
    decide +kernel
  have hreadable : GeoPoint.origin.IsReadable :=
    ⟨⟨Double.ofFloat 0, by rfl, by rfl⟩, ⟨Double.ofFloat 0, by rfl, by rfl⟩⟩
  obtain ⟨hareas, -⟩ := distances_of_run (x := x) (R := Shop.description)
    Store.IsMadeFor.isMadeFor_shops.toIsBuiltFor rfl (.numbered "s") 0
    [.operation (.saveBatch [shopAt "a" 1 .origin])] rfl fun P hP hP' place hplace p hp => by
      rw [hgeo P hP hP', hpoint place hplace] at hp
      obtain rfl := Option.some.inj hp
      exact hreadable
  have hcount : (x.search [wideClause .origin] 1 20 []).toOption.map (·.hits.length) = some 1 := by
    decide +kernel
  cases hsearch : x.search [wideClause .origin] 1 20 [] with
  | error e => rw [hsearch] at hcount; cases hcount
  | ok result =>
    rw [hsearch] at hcount
    refine ⟨result, rfl, ?_, fun hit hhit => ?_⟩
    · rintro hnil
      simp [Except.toOption, hnil] at hcount
    · obtain ⟨P, -, -, place, -, r, p, -, -, rfl⟩ := hareas _ _ _ _ _ hsearch _
        (List.mem_singleton_self _) _ rfl hit hhit
      exact ⟨p, rfl, rfl⟩

end Searcher

end Catalog
