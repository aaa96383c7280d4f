import Catalog.Proofs.Clause.Areas
import Catalog.Proofs.Search.Combined

/-!
# Requests and their areas

A request is put together by calls, some of which add a clause. Clauses may ask for an area in
several ways, and what is put together asks for as many areas as the calls do; so a search is
refused for a second area whether its clauses come as a list or call by call.

## Main definitions

* `RequestCall`, `SearchRequest.takeAll`: the calls that put a request together
* `Searcher.request`: the answer to a request that is put together by calls

## Main results

* `SearchRequest.areaCount_takeAll`: a request asks for the areas that its calls ask for
* `Searcher.asksForOneArea`: lists of clauses and requests have one area at most
-/

namespace Catalog

/-- A call that adds to a request. -/
inductive RequestCall where
  | clause (c : Clause)
  | must (c : Clause)
  | should (c : Clause)
  | mustNot (c : Clause)
  | inArea (center : GeoPoint) (radiusKm : Float)
  | byId (property literal : String)
  | page (number : Int)
  | pageSize (size : Nat)
  | sortBy (property : String) (isDescending : Bool)

/-- Whether a call asks for an area. -/
def RequestCall.isArea : RequestCall → Bool
  | .clause c | .must c | .should c | .mustNot c => c.isArea
  | .inArea _ _ => true
  | .byId _ _ | .page _ | .pageSize _ | .sortBy _ _ => false

namespace SearchRequest

variable {q q' : SearchRequest}

/-- A request after a call. -/
def take (q : SearchRequest) : RequestCall → Except ClauseError SearchRequest
  | .clause c => .ok (q.clause c)
  | .must c => .ok (q.must c)
  | .should c => .ok (q.should c)
  | .mustNot c => .ok (q.mustNot c)
  | .inArea center radiusKm => q.inArea center radiusKm
  | .byId property literal => .ok (q.byId property literal)
  | .page number => .ok { q with page := number }
  | .pageSize size => .ok { q with pageSize := size }
  | .sortBy property isDescending => .ok (q.sortBy property isDescending)

/-- A request after some calls. -/
def takeAll (q : SearchRequest) (calls : List RequestCall) : Except ClauseError SearchRequest :=
  calls.foldlM take q

theorem areaCount_clause (q : SearchRequest) (c : Clause) :
    areaCount (q.clause c).clauses = areaCount q.clauses + c.isArea.toNat := by
  rw [clause, areaCount, areaCount, List.countP_append, List.countP_singleton]
  cases c.isArea <;> rfl

/-- An area is refused if there is one. -/
theorem inArea_eq_error_duplicateArea_iff {center : GeoPoint} {radiusKm : Float} :
    q.inArea center radiusKm = .error .duplicateArea ↔ 0 < areaCount q.clauses := by
  rw [areaCount, List.countP_pos_iff, ← List.any_eq_true, inArea]
  split
  · next hany => exact iff_of_true rfl hany
  · next hany =>
    refine iff_of_false (map_ne_error _ ?_) hany
    unfold areaKind
    split <;> simp

theorem areaCount_inArea {center : GeoPoint} {radiusKm : Float}
    (h : q.inArea center radiusKm = .ok q') :
    areaCount q'.clauses = areaCount q.clauses + 1 := by
  unfold inArea areaKind at h
  split at h
  · cases h
  · split at h
    · cases h
      exact areaCount_clause q _
    · cases h

/-- **A call adds the area that it asks for**, and no other. -/
theorem areaCount_take {call : RequestCall} (h : q.take call = .ok q') :
    areaCount q'.clauses = areaCount q.clauses + call.isArea.toNat := by
  cases call with
  | inArea center radiusKm => exact areaCount_inArea h
  | clause c | must c | should c | mustNot c =>
    cases h
    exact areaCount_clause q _
  | byId property literal =>
    cases h
    exact areaCount_clause q _
  | page number | pageSize size | sortBy property isDescending =>
    cases h
    rfl

/-- A call is refused for its area only if there is one already. -/
theorem isArea_of_take_eq_error {call : RequestCall} (h : q.take call = .error .duplicateArea) :
    call.isArea = true ∧ 0 < areaCount q.clauses := by
  cases call with
  | inArea center radiusKm => exact ⟨rfl, inArea_eq_error_duplicateArea_iff.mp h⟩
  | _ => cases h

/-- **A request asks for the areas that its calls ask for.** -/
theorem areaCount_takeAll {calls : List RequestCall} (h : q.takeAll calls = .ok q') :
    areaCount q'.clauses = areaCount q.clauses + calls.countP RequestCall.isArea := by
  induction calls generalizing q with
  | nil =>
    cases h
    rfl
  | cons call calls ih =>
    rw [takeAll, List.foldlM_cons] at h
    obtain ⟨next, hnext, hrest⟩ := exists_of_bind_eq_ok h
    rw [ih hrest, areaCount_take hnext, List.countP_cons]
    cases call.isArea <;> simp [Nat.add_comm, Nat.add_left_comm]

/-- Calls are refused for a second area only if there is one. -/
theorem two_le_of_takeAll {calls : List RequestCall}
    (h : q.takeAll calls = .error .duplicateArea) :
    2 ≤ areaCount q.clauses + calls.countP RequestCall.isArea := by
  induction calls generalizing q with
  | nil => cases h
  | cons call calls ih =>
    rw [takeAll, List.foldlM_cons] at h
    rw [List.countP_cons]
    cases hcall : q.take call with
    | error e =>
      rw [hcall] at h
      cases h
      obtain ⟨harea, hpos⟩ := isArea_of_take_eq_error hcall
      rw [if_pos harea]
      omega
    | ok next =>
      rw [hcall] at h
      have hnext := ih h
      rw [areaCount_take hcall] at hnext
      cases harea : call.isArea <;> simp [harea] at hnext ⊢ <;> omega

end SearchRequest

theorem AsksForOneArea.bind {α β : Type} {areas : Nat} {r : Except SearchError α}
    {g : α → Except SearchError β} (h : AsksForOneArea areas r)
    (hg : ∀ a, r = .ok a → g a ≠ .error (.clause .duplicateArea)) :
    AsksForOneArea areas (r.bind g) where
  exists_error htwo := by
    obtain ⟨e, rfl⟩ := h.exists_error htwo
    exact ⟨e, rfl⟩
  ne_duplicateArea hone := bind_ne_error (h.ne_duplicateArea hone) hg

namespace Searcher

variable {ρ : Type}

/-- The answer to a request that is put together by calls. -/
def request (x : Searcher ρ) (calls : List RequestCall) : Except SearchError (ResultPage ρ) := do
  let q ← ((SearchRequest.ofConfig x.store.config).takeAll calls).mapError .clause
  q.run x

theorem sortKeys_ne_duplicateArea (scope : SearchScope) (sort : List SortOption) :
    scope.sortKeys sort ≠ .error (.clause .duplicateArea) :=
  mapM_ne_error fun _ _ => map_ne_error _ (scope.binding_ne_duplicateArea _)

theorem resultPage_ne_duplicateArea (x : Searcher ρ) (cs : List Candidate) (page : Int)
    (size : Nat) : x.resultPage cs page size ≠ .error (.clause .duplicateArea) := by
  refine map_ne_error _ (mapM_ne_error fun c _ => ?_)
  unfold decode
  split
  · nofun
  · split <;> nofun

/-- A search is refused for a second area only if its clauses are. -/
theorem asksForOneArea_search (x : Searcher ρ) (clauses : List Clause) (page : Int) (size : Nat)
    (sort : List SortOption) :
    AsksForOneArea (areaCount clauses) (x.search clauses page size sort) := by
  refine (x.store.scope.asksForOneArea_build clauses).bind fun d _ => ?_
  refine bind_ne_error (sortKeys_ne_duplicateArea _ sort) fun keys _ => ?_
  split
  · nofun
  · exact x.resultPage_ne_duplicateArea _ page size

/-- A request is refused for a second area only if its calls ask for one. -/
theorem asksForOneArea_request (x : Searcher ρ) (calls : List RequestCall) :
    AsksForOneArea (calls.countP RequestCall.isArea) (x.request calls) := by
  have hnone : areaCount (SearchRequest.ofConfig x.store.config).clauses = 0 := rfl
  unfold request
  cases h : (SearchRequest.ofConfig x.store.config).takeAll calls with
  | ok q =>
    have hcount := SearchRequest.areaCount_takeAll h
    rw [hnone, Nat.zero_add] at hcount
    rw [← hcount]
    exact x.asksForOneArea_search q.clauses q.page q.pageSize q.sort
  | error e =>
    refine ⟨fun _ => ⟨_, rfl⟩, fun hone hdup => ?_⟩
    cases hdup
    have := SearchRequest.two_le_of_takeAll h
    omega

/-- **A search has one area at most.** With two or more of them, wherever they stand and however
they have been added, nothing is compiled, found or answered; with one at most none of this is
refused for a second area; and what is compiled tells of its clauses whether they have an area,
which one, and whether there are any. -/
theorem asksForOneArea (x : Searcher ρ) (scope : SearchScope) (clauses : List Clause)
    (calls : List RequestCall) :
    AsksForOneArea (areaCount clauses) (scope.build clauses) ∧
    (∀ page size sort, AsksForOneArea (areaCount clauses) (x.search clauses page size sort)) ∧
    AsksForOneArea (calls.countP RequestCall.isArea) (x.request calls) ∧
    ∀ d, scope.build clauses = .ok d → d.Describes clauses :=
  ⟨scope.asksForOneArea_build clauses, x.asksForOneArea_search clauses,
    x.asksForOneArea_request calls, fun _ => SearchScope.describes_of_build⟩

/-- A request for two areas, the second of which comes as a clause behind one that only excludes. -/
def twiceInArea : List RequestCall :=
  [.inArea athens 5, .mustNot { property := "stock", kind := .range (.int 2 3) },
    .should (wideClause .origin), .page 2]

/-- Shops are found by clauses of which one asks for an area. A second area is refused, in the list
and in a request. -/
theorem asksForOneArea_mixedShops :
    let scope := mixedShops.store.scope
    let clauses := wideClause athens :: mixedClauses
    (∃ e, scope.build clauses = .error e) ∧ (∃ e, mixedShops.search clauses 1 5 [] = .error e) ∧
      (∃ e, mixedShops.request twiceInArea = .error e) ∧
      ∃ d, scope.build mixedClauses = .ok d ∧ d.Describes mixedClauses ∧ d.isSpatial = true := by
  intro scope clauses
  have htwo : 2 ≤ areaCount clauses := by decide
  have hcalls : 2 ≤ twiceInArea.countP RequestCall.isArea := by decide
  obtain ⟨hbuild, hsearch, hrequest, -⟩ := mixedShops.asksForOneArea scope clauses twiceInArea
  obtain ⟨d, hd⟩ : ∃ d, scope.build mixedClauses = .ok d := ⟨_, rfl⟩
  obtain ⟨-, -, -, hdescribes⟩ := mixedShops.asksForOneArea scope mixedClauses []
  refine ⟨hbuild.exists_error htwo, (hsearch 1 5 []).exists_error htwo,
    hrequest.exists_error hcalls, d, hd, hdescribes d hd, ?_⟩
  exact (hdescribes d hd).isSpatial_iff.mpr ⟨{ wideClause .origin with occur := .should },
    by simp [mixedClauses], rfl⟩

end Searcher

end Catalog
