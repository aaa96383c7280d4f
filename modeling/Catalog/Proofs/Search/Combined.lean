import Catalog.Proofs.Clause.Combination
import Catalog.Proofs.Search.Pages
import Catalog.Proofs.Store.Bookkeeping

/-!
# What a search returns

The records that a list of clauses returns over all pages follow from what its clauses return
alone: those about properties combine by their occurrences, and an area clause narrows the rest
whatever its occurrence. What an area clause returns lies in the circle, and in the bounding box as
well; there are points of the circle that the box leaves out.

## Main results

* `Searcher.returns_combination`: a list of clauses, by what its clauses return alone
* `Searcher.not_returns_circle`: an area clause that does not return its circle
-/

namespace Catalog

namespace Searcher

variable {ρ : Type}

/-- **What a list of clauses returns**, by what its clauses return alone as ones that must match.
An area clause has its say whatever its occurrence, and alone it returns what is in its bounding box
and in its circle. Clauses that only exclude return all that none of them returns. -/
theorem returns_combination {x : Searcher ρ} {clauses : List Clause} {d : QueryDescriptor}
    {size : Nat} {sort : List SortOption} {keys : List SortKey}
    (hdecodes : x.Decodes) (hne : clauses ≠ []) (hbuild : x.store.scope.build clauses = .ok d)
    (hsort : x.store.scope.sortKeys sort = .ok keys) (hsize : 0 < size)
    (hcount : x.count ≤ x.store.config.maxResults) (hword : x.store.config.maxResults ≤ wordMax) :
    let scope := x.store.scope
    (∀ c ∈ clauses, x.Returns [{ c with occur := .must }] size [] (scope.findsAlone c ·)) ∧
    x.Returns clauses size sort (fun p =>
      Combines (propertyClauses clauses) Clause.occur (fun c => scope.findsAlone c p = true) ∧
        ∀ c ∈ clauses, c.isArea = true → scope.findsAlone c p = true) ∧
    (∀ c ∈ clauses, ∀ a, c.area? = some a → ∃ f, scope.spatialFilter a = .ok f ∧ f.area = a ∧
      ∀ p, scope.findsAlone c p = true ↔
        f.query.finds p = true ∧ f.liesIn p.document = true) ∧
    ((∀ c ∈ clauses, c.isArea = false ∧ c.occur = .mustNot) →
      x.Returns clauses size sort fun p => ∀ c ∈ clauses, ¬ scope.findsAlone c p = true) := by
  intro scope
  obtain ⟨q, hq⟩ := SearchScope.exists_toQuery? hbuild hne
  have hselects := SearchScope.selects_iff hbuild hne
  refine ⟨fun c hc => ?_, ?_, fun c hc a ha => ?_, fun hnot => ?_⟩
  · obtain ⟨d', hd', hfinds⟩ := SearchScope.exists_build_alone hbuild hc
    obtain ⟨q', hq'⟩ := SearchScope.exists_toQuery? hd' (List.cons_ne_nil _ _)
    exact returns_of_selects_iff hdecodes hd' rfl hq' hsize hcount hword fun p => by rw [hfinds]
  · exact returns_of_selects_iff hdecodes hbuild hsort hq hsize hcount hword hselects
  · obtain ⟨f, hf, -⟩ := SearchScope.exists_spatialFilter hbuild hc ha
    refine ⟨f, hf, SearchScope.area_eq_of_spatialFilter hf, fun p => ?_⟩
    rw [SearchScope.findsAlone_of_area ha hf, SpatialFilter.selects, Bool.and_eq_true]
  · have hproperty : propertyClauses clauses = clauses :=
      List.filter_eq_self.mpr fun c hc => by rw [(hnot c hc).1]; rfl
    refine returns_of_selects_iff hdecodes hbuild hsort hq hsize hcount hword fun p => ?_
    rw [hselects, hproperty, combines_iff_of_mustNot fun c hc => (hnot c hc).2]
    refine and_iff_left fun c hc harea => ?_
    rw [(hnot c hc).1] at harea
    cases harea

/-! ### Shops -/

/-- A shop of which the identity, the stock and the place are known. -/
def shopAt (text : String) (stock : Int64) (location : GeoPoint) : Shop :=
  { Shop.blank with id := ⟨text⟩, stock, location }

/-- What is seen of a new store in which shops have been saved. -/
def ofShops (rs : List Shop) : Searcher Shop :=
  let s := Store.IsMadeFor.shops
  ⟨Shop.recordType, s, (s.newWriter.saveBatch s (.numbered "s") 0 rs).1.index.snapshot⟩

/-- A circle that is almost the whole globe. -/
def wideArea (center : GeoPoint) : SearchArea :=
  ⟨center, 20000, by decide +kernel⟩

/-- The clause for the circle. -/
def wideClause (center : GeoPoint) : Clause :=
  { property := "", kind := .inArea (wideArea center) }

/-- Clauses of several occurrences and an area, which has its say although it need not match. -/
def mixedClauses : List Clause :=
  [{ property := "stock", kind := .range (.int 1 2), boost := some 2, occur := .should },
    { property := "stock", kind := .range (.int 2 3), occur := .mustNot },
    { property := "stock", kind := .range (.int 4 5), occur := .should },
    { wideClause .origin with occur := .should }]

/-- Shops at one place, and one that is elsewhere. -/
def mixedShops : Searcher Shop :=
  ofShops [shopAt "a" 1 .origin, shopAt "b" 2 .origin, shopAt "c" 3 .origin, shopAt "d" 4 .origin,
    shopAt "e" 5 ⟨0, 200⟩]

/-- Two of the shops are returned, each on a page of its own. -/
theorem returns_mixedClauses :
    mixedShops.Returns mixedClauses 1 [] (fun p =>
      Combines (propertyClauses mixedClauses) Clause.occur
          (fun c => mixedShops.store.scope.findsAlone c p = true) ∧
        ∀ c ∈ mixedClauses, c.isArea = true → mixedShops.store.scope.findsAlone c p = true) ∧
    (mixedShops.allHits mixedClauses 1 []).toOption.map (List.map (·.record.id.text)) =
      some ["a", "d"] := by
  obtain ⟨d, hbuild⟩ : ∃ d, mixedShops.store.scope.build mixedClauses = .ok d := ⟨_, rfl⟩
  have hdecodes : mixedShops.Decodes := by decide +kernel
  have hsort : mixedShops.store.scope.sortKeys [] = .ok [] := rfl
  obtain ⟨-, hreturns, -⟩ := returns_combination hdecodes (List.cons_ne_nil _ _) hbuild hsort
    Nat.one_pos (by decide +kernel) (by decide +kernel)
  exact ⟨hreturns, by decide +kernel⟩

/-- The center of a circle is returned by no search for the circle if its longitude is beyond the
line of date. -/
theorem not_returns_circle :
    let x := ofShops [shopAt "e" 5 ⟨0, 200⟩]
    let clauses := [wideClause ⟨0, 200⟩]
    let f : SpatialFilter := ⟨wideArea ⟨0, 200⟩, .ofProperty "location"⟩
    x.Decodes ∧ x.count ≤ x.store.config.maxResults ∧ x.store.config.maxResults ≤ wordMax ∧
      x.store.scope.build clauses = .ok ⟨none, some f⟩ ∧
      ¬ x.Returns clauses 20 [] (fun p => f.liesIn p.document = true) := by
  intro x clauses f
  refine ⟨by decide +kernel, by decide +kernel, by decide +kernel, rfl, ?_⟩
  rintro ⟨d, hits, expected, -, hexpected, hhits, hperm⟩
  have hnone : (x.allHits clauses 20 []).toOption.map List.length = some 0 := by decide +kernel
  have hlies : ∃ p ∈ x.snapshot.places, f.liesIn p.document = true := by decide +kernel
  -- nothing is returned, although the filter of what lies in the circle keeps the shop
  rw [hhits] at hnone
  obtain rfl : hits = [] := List.eq_nil_of_length_eq_zero (Option.some.inj hnone)
  obtain rfl : expected = [] := hperm.nil_eq.symm
  obtain ⟨p, hp, hliesIn⟩ := hlies
  have hkept := List.filter_eq_nil_iff.mp (eq_nil_of_mapM_ok hexpected) p hp
  exact hkept (by simpa using hliesIn)

end Searcher

end Catalog
