import Catalog.Proofs.Clause.Combination

/-!
# Areas among clauses

A list of clauses is compiled only if it asks for one area at most. That a second area was asked for
is reported for no other reason, wherever the areas stand and whatever becomes of the clauses
between them; and what has been compiled tells of the list whether there was an area, which one, and
whether there was anything at all.

## Main definitions

* `areaCount`: the number of area clauses
* `AsksForOneArea`: a result that is there for one area at most
* `QueryDescriptor.Describes`: what a descriptor tells of the clauses that it was compiled from

## Main results

* `SearchScope.asksForOneArea_build`: a list of clauses is compiled for one area at most
* `SearchScope.describes_of_build`: what has been compiled tells of the clauses
-/

namespace Catalog

/-- The number of clauses that ask for an area. -/
def areaCount (clauses : List Clause) : Nat :=
  clauses.countP Clause.isArea

/-- A result that is there only if one area is asked for at most, and that is refused for a second
area only if there is one. -/
structure AsksForOneArea {α : Type} (areas : Nat) (result : Except SearchError α) : Prop where
  exists_error : 2 ≤ areas → ∃ e, result = .error e
  ne_duplicateArea : areas ≤ 1 → result ≠ .error (.clause .duplicateArea)

/-- What a descriptor tells of the clauses that it was compiled from. -/
structure QueryDescriptor.Describes (d : QueryDescriptor) (clauses : List Clause) : Prop where
  isSpatial_iff : d.isSpatial = true ↔ ∃ c ∈ clauses, c.isArea = true
  area_eq : ∀ c ∈ clauses, ∀ a, c.kind = .inArea a → d.spatial.map SpatialFilter.area = some a
  isEmpty_iff : d.isEmpty = true ↔ clauses = []
  toQuery?_eq_none_iff : d.toQuery? = none ↔ clauses = []

theorem Clause.isArea_iff {c : Clause} : c.isArea = true ↔ ∃ a, c.area? = some a := by
  rw [c.isArea_eq, Option.isSome_iff_exists]

theorem areaCount_eq (clauses : List Clause) :
    areaCount clauses = (clauses.filterMap Clause.area?).length := by
  rw [areaCount, List.length_filterMap_eq_countP]
  exact congrArg (clauses.countP ·) (funext Clause.isArea_eq)

theorem areaCount_cons_of_some {c : Clause} {a : SearchArea} (hc : c.area? = some a)
    (clauses : List Clause) : areaCount (c :: clauses) = areaCount clauses + 1 := by
  rw [areaCount, List.countP_cons_of_pos (by rw [c.isArea_eq, hc]; rfl), ← areaCount]

/-! ### Refusals for other reasons -/

theorem Binding.exactValue_ne_duplicateArea (b : Binding) (literal : String) :
    b.exactValue literal ≠ .error .duplicateArea := by
  unfold exactValue
  split
  case h_1 | h_2 | h_3 => exact mapError_ne_error fun _ _ => nofun
  case h_4 => split <;> nofun
  all_goals nofun

theorem Binding.rangeQuery_ne_duplicateArea (b : Binding) (bounds : RangeBounds) :
    b.rangeQuery bounds ≠ .error .duplicateArea := by
  unfold rangeQuery
  -- the one pair of a kind and a range that is looked at more closely is refused for its kind too
  split
  case h_2 => split <;> nofun
  all_goals nofun

theorem wildcardQuery_ne_duplicateArea (field word : String) :
    wildcardQuery field word ≠ .error (.clause .duplicateArea) := by
  simp only [wildcardQuery]
  split <;> nofun

theorem Binding.likeQuery_ne_duplicateArea (b : Binding) (analyzer : Analyzer) (pattern : String) :
    b.likeQuery analyzer pattern ≠ .error (.clause .duplicateArea) := by
  unfold likeQuery
  split
  · nofun
  · exact map_ne_error _ (mapM_ne_error fun w _ => wildcardQuery_ne_duplicateArea _ w)

namespace SearchScope

variable {scope : SearchScope} {clauses : List Clause} {d : QueryDescriptor}

theorem binding_ne_duplicateArea (scope : SearchScope) (property : String) :
    scope.binding property ≠ .error (.clause .duplicateArea) := by
  unfold binding
  split <;> nofun

theorem termQuery_ne_duplicateArea (scope : SearchScope) (b : Binding) (text : String) :
    scope.termQuery b text ≠ .error (.clause .duplicateArea) := by
  simp only [termQuery]
  split
  · nofun
  · split
    · nofun
    · split <;> nofun

/-- No clause about a property is refused for its area. -/
theorem clauseQuery_ne_duplicateArea (scope : SearchScope) (b : Binding) {kind : ClauseKind}
    (hkind : ∀ a, kind ≠ .inArea a) :
    scope.clauseQuery b kind ≠ .error (.clause .duplicateArea) := by
  cases kind with
  | term text => exact scope.termQuery_ne_duplicateArea b text
  | like pattern => exact b.likeQuery_ne_duplicateArea scope.analyzer pattern
  | fuzzy text => nofun
  | exact literal =>
    refine mapError_ne_error fun e he h => ?_
    rw [SearchError.clause.inj h] at he
    exact map_ne_error _ (b.exactValue_ne_duplicateArea literal) he
  | range bounds =>
    refine mapError_ne_error fun e he h => ?_
    rw [SearchError.clause.inj h] at he
    exact b.rangeQuery_ne_duplicateArea bounds he
  | inArea a => exact absurd rfl (hkind a)

theorem partOf_ne_duplicateArea {c : Clause} (hc : c.area? = none) :
    scope.partOf c ≠ .error (.clause .duplicateArea) := by
  have hkind (a : SearchArea) : c.kind ≠ .inArea a := by
    intro hkind
    rw [Clause.area?, hkind] at hc
    cases hc
  refine map_ne_error _ (bind_ne_error (scope.binding_ne_duplicateArea _) fun b _ => ?_)
  refine bind_ne_error (scope.clauseQuery_ne_duplicateArea b hkind) fun _ _ h => ?_
  cases h

theorem spatialFilter_ne_duplicateArea (a : SearchArea) :
    scope.spatialFilter a ≠ .error (.clause .duplicateArea) := by
  unfold spatialFilter
  split <;> nofun

/-! ### Compiling one clause after the other -/

/-- A clause is refused for its area only if there is an area already. -/
theorem isArea_of_compileClause_eq_error {c : Clause} {done : Compiled}
    (h : scope.compileClause done c = .error (.clause .duplicateArea)) :
    c.isArea = true ∧ done.spatial.isSome = true := by
  cases hc : c.area? with
  | none =>
    rw [compileClause_of_not_isArea hc] at h
    exact absurd h (map_ne_error _ (partOf_ne_duplicateArea hc))
  | some a =>
    refine ⟨Clause.isArea_iff.mpr ⟨a, hc⟩, ?_⟩
    by_contra hspatial
    rw [compileClause_of_area hc, if_neg hspatial] at h
    exact map_ne_error _ (spatialFilter_ne_duplicateArea a) h

/-- What is compiled of one clause has its area beside the areas before. -/
theorem length_spatial_of_compileClause {c : Clause} {done next : Compiled}
    (h : scope.compileClause done c = .ok next) :
    next.spatial.toList.length = done.spatial.toList.length + areaCount [c] := by
  have halone : [c].foldlM scope.compileClause done = .ok next := by
    rw [List.foldlM_cons, h]
    rfl
  obtain ⟨parts, filters, -, hfilters, -, hspatial⟩ := exists_of_foldlM_compileClause halone
  rw [hspatial, List.length_append, areaCount_eq, (mapM_eq_ok_iff.mp hfilters).length_eq]

/-- A list of clauses is refused for a second area only if there is one, or one has been compiled
before. -/
theorem two_le_of_foldlM_compileClause {done : Compiled}
    (h : clauses.foldlM scope.compileClause done = .error (.clause .duplicateArea)) :
    2 ≤ done.spatial.toList.length + areaCount clauses := by
  induction clauses generalizing done with
  | nil => cases h
  | cons c clauses ih =>
    rw [List.foldlM_cons] at h
    cases hstep : scope.compileClause done c with
    | error e =>
      rw [hstep] at h
      cases h
      obtain ⟨harea, hspatial⟩ := isArea_of_compileClause_eq_error hstep
      obtain ⟨a, ha⟩ := Clause.isArea_iff.mp harea
      obtain ⟨f, hf⟩ := Option.isSome_iff_exists.mp hspatial
      rw [hf, areaCount_cons_of_some ha, Option.toList_some, List.length_singleton]
      omega
    | ok next =>
      rw [hstep] at h
      have hnext := ih h
      rw [length_spatial_of_compileClause hstep, Nat.add_assoc] at hnext
      rwa [← List.singleton_append, areaCount, List.countP_append]

/-- What has been compiled has the areas that were asked for. -/
theorem length_spatial_of_build (h : scope.build clauses = .ok d) :
    d.spatial.toList.length = areaCount clauses := by
  obtain ⟨-, -, hfilters, -⟩ := exists_of_build h
  rw [areaCount_eq, (mapM_eq_ok_iff.mp hfilters).length_eq]

/-- **A list of clauses is compiled for one area at most**, and a second area is the only reason to
say that there is one. -/
theorem asksForOneArea_build (scope : SearchScope) (clauses : List Clause) :
    AsksForOneArea (areaCount clauses) (scope.build clauses) where
  exists_error htwo := by
    cases h : scope.build clauses with
    | error e => exact ⟨e, rfl⟩
    | ok d =>
      have hlength := length_spatial_of_build h
      have : d.spatial.toList.length ≤ 1 := by cases d.spatial <;> simp
      omega
  ne_duplicateArea hone := by
    refine map_ne_error _ fun h => ?_
    have := two_le_of_foldlM_compileClause h
    simp only [Option.toList_none, List.length_nil] at this
    omega

/-- **What has been compiled tells of the clauses** whether there is an area among them, which one,
and whether there are any at all. -/
theorem describes_of_build (h : scope.build clauses = .ok d) : d.Describes clauses where
  isSpatial_iff := by
    rw [QueryDescriptor.isSpatial, Option.isSome_iff_exists]
    constructor
    · rintro ⟨f, hf⟩
      obtain ⟨c, hc, a, ha, -⟩ := (spatial_eq_some_iff h f).mp hf
      exact ⟨c, hc, Clause.isArea_iff.mpr ⟨a, ha⟩⟩
    · rintro ⟨c, hc, harea⟩
      obtain ⟨a, ha⟩ := Clause.isArea_iff.mp harea
      obtain ⟨f, -, hspatial⟩ := exists_spatialFilter h hc ha
      exact ⟨f, hspatial⟩
  area_eq c hc a hkind := by
    obtain ⟨f, hf, hspatial⟩ := exists_spatialFilter h hc (a := a) (by rw [Clause.area?, hkind])
    rw [hspatial, Option.map_some, area_eq_of_spatialFilter hf]
  isEmpty_iff := by
    constructor
    · intro hempty
      by_contra hne
      obtain ⟨q, hq⟩ := exists_toQuery? h hne
      obtain ⟨hquery, hspatial⟩ : d.query = none ∧ d.spatial = none := by
        simpa [QueryDescriptor.isEmpty] using hempty
      rw [QueryDescriptor.toQuery?, hquery, hspatial] at hq
      cases hq
    · rintro rfl
      cases h
      rfl
  toQuery?_eq_none_iff := by
    constructor
    · intro hnone
      by_contra hne
      obtain ⟨q, hq⟩ := exists_toQuery? h hne
      rw [hnone] at hq
      cases hq
    · rintro rfl
      cases h
      rfl

end SearchScope

end Catalog
