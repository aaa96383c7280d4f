import Catalog.Proofs.Results
import Catalog.Proofs.Search.Places

/-!
# Combined clauses

Clauses are compiled one by one: those about properties become the parts of a combination, each by
itself, and the area becomes a filter. A combination asks for all that must match, for nothing that
must not, and, if nothing must match, for one of those that may; one that only excludes takes all
the rest. Boosts have no say in this, and neither has the occurrence of an area clause.

## Main definitions

* `Clause.area?`, `propertyClauses`: the area of a clause, and the clauses without one
* `SearchScope.propertyQuery`: what a clause about a property is compiled to
* `Combines`: what a combination asks of its parts
* `SearchScope.findsAlone`: whether the search for a clause alone finds a place

## Main results

* `SearchScope.exists_of_build`: a list of clauses is compiled clause by clause
* `Query.finds_combinedQuery_iff`: what a combination finds
* `SearchScope.selects_iff`: what a list of clauses selects, by what each selects alone
-/

namespace Catalog

/-! ### Clause by clause -/

/-- The area that a clause asks for. -/
def Clause.area? (c : Clause) : Option SearchArea :=
  match c.kind with
  | .inArea a => some a
  | _ => none

theorem Clause.isArea_eq (c : Clause) : c.isArea = c.area?.isSome := by
  unfold isArea area?
  cases c.kind <;> rfl

/-- The clauses that are about properties. -/
def propertyClauses (clauses : List Clause) : List Clause :=
  clauses.filter fun c => !c.isArea

theorem mem_propertyClauses {c : Clause} {clauses : List Clause} :
    c ∈ propertyClauses clauses ↔ c ∈ clauses ∧ c.area? = none := by
  rw [propertyClauses, List.mem_filter, c.isArea_eq, Bool.not_eq_true', Option.isSome_eq_false_iff,
    Option.isNone_iff_eq_none]

theorem propertyClauses_cons_of_none {c : Clause} (hc : c.area? = none) (clauses : List Clause) :
    propertyClauses (c :: clauses) = c :: propertyClauses clauses := by
  rw [propertyClauses, List.filter_cons_of_pos (by rw [c.isArea_eq, hc]; rfl), ← propertyClauses]

theorem propertyClauses_cons_of_some {c : Clause} {a : SearchArea} (hc : c.area? = some a)
    (clauses : List Clause) : propertyClauses (c :: clauses) = propertyClauses clauses := by
  rw [propertyClauses, List.filter_cons_of_neg (by rw [c.isArea_eq, hc]; exact Bool.false_ne_true),
    ← propertyClauses]

namespace SearchScope

variable {scope : SearchScope}

/-- The query that a clause about a property is compiled to, whatever its occurrence. -/
def propertyQuery (scope : SearchScope) (c : Clause) : Except SearchError Query := do
  let b ← scope.binding c.property
  let q ← scope.clauseQuery b c.kind
  return q.boosted c.boost

/-- The part that a clause about a property becomes. -/
def partOf (scope : SearchScope) (c : Clause) : Except SearchError (Occur × Query) :=
  (scope.propertyQuery c).map (Prod.mk c.occur)

theorem exists_of_partOf {c : Clause} {part : Occur × Query} (h : scope.partOf c = .ok part) :
    ∃ q, scope.propertyQuery c = .ok q ∧ part = (c.occur, q) := by
  unfold partOf at h
  cases hq : scope.propertyQuery c with
  | error e => rw [hq] at h; cases h
  | ok q => rw [hq] at h; cases h; exact ⟨q, rfl, rfl⟩

theorem compileClause_of_not_isArea {c : Clause} (hc : c.area? = none) (done : Compiled) :
    scope.compileClause done c =
      (scope.partOf c).map fun part => { done with parts := done.parts ++ [part] } := by
  unfold compileClause partOf propertyQuery
  cases hkind : c.kind with
  | inArea a => rw [Clause.area?, hkind] at hc; cases hc
  | _ =>
    cases scope.binding c.property with
    | error e => rfl
    | ok b =>
      simp only [bind, Except.bind]
      cases scope.clauseQuery b _ <;> rfl

theorem compileClause_of_area {c : Clause} {a : SearchArea} (hc : c.area? = some a)
    (done : Compiled) : scope.compileClause done c =
      if done.spatial.isSome then .error (.clause .duplicateArea)
      else (scope.spatialFilter a).map fun f => { done with spatial := some f } := by
  have hkind : c.kind = .inArea a := by
    unfold Clause.area? at hc
    split at hc
    · next hkind => rw [hkind, Option.some.inj hc]
    · cases hc
  rw [compileClause, hkind]

/-- Clauses are compiled one by one, behind what has been compiled. -/
theorem exists_of_foldlM_compileClause {clauses : List Clause} {done after : Compiled}
    (h : clauses.foldlM scope.compileClause done = .ok after) :
    ∃ parts filters, (propertyClauses clauses).mapM scope.partOf = .ok parts ∧
      (clauses.filterMap Clause.area?).mapM scope.spatialFilter = .ok filters ∧
      after.parts = done.parts ++ parts ∧
      after.spatial.toList = done.spatial.toList ++ filters := by
  induction clauses generalizing done with
  | nil =>
    cases h
    exact ⟨[], [], rfl, rfl, (List.append_nil _).symm, (List.append_nil _).symm⟩
  | cons c clauses ih =>
    rw [List.foldlM_cons] at h
    cases hc : c.area? with
    | none =>
      rw [compileClause_of_not_isArea hc] at h
      cases hpart : scope.partOf c with
      | error e => rw [hpart] at h; cases h
      | ok part =>
        rw [hpart] at h
        obtain ⟨parts, filters, hparts, hfilters, heq, hspatial⟩ := ih h
        rw [propertyClauses_cons_of_none hc, List.filterMap_cons_none hc]
        refine ⟨part :: parts, filters, mapM_cons_eq_ok_iff.mpr ⟨part, parts, hpart, hparts, rfl⟩,
          hfilters, ?_, hspatial⟩
        rw [heq, List.append_assoc, List.singleton_append]
    | some a =>
      rw [compileClause_of_area hc] at h
      -- where there is a filter already the clause is an error, so the new one stands alone
      cases hspatial : done.spatial with
      | some f => rw [hspatial] at h; cases h
      | none =>
        rw [hspatial] at h
        cases hfilter : scope.spatialFilter a with
        | error e => rw [hfilter] at h; cases h
        | ok f =>
          rw [hfilter] at h
          obtain ⟨parts, filters, hparts, hfilters, heq, hspatial⟩ := ih h
          rw [propertyClauses_cons_of_some hc, List.filterMap_cons_some hc]
          exact ⟨parts, f :: filters, hparts,
            mapM_cons_eq_ok_iff.mpr ⟨f, filters, hfilter, hfilters, rfl⟩, heq, hspatial⟩

/-- **A list of clauses is compiled clause by clause**: those about properties to the parts of a
combination, and the area clause, of which there is one at most, to a filter. -/
theorem exists_of_build {clauses : List Clause} {d : QueryDescriptor}
    (h : scope.build clauses = .ok d) :
    ∃ parts, (propertyClauses clauses).mapM scope.partOf = .ok parts ∧
      (clauses.filterMap Clause.area?).mapM scope.spatialFilter = .ok d.spatial.toList ∧
      d.query = combinedQuery parts := by
  unfold build at h
  cases hfold : clauses.foldlM scope.compileClause ⟨[], none⟩ with
  | error e => rw [hfold] at h; cases h
  | ok after =>
    rw [hfold] at h
    cases h
    obtain ⟨parts, filters, hparts, hfilters, heq, hspatial⟩ :=
      exists_of_foldlM_compileClause hfold
    refine ⟨parts, hparts, ?_, congrArg combinedQuery heq⟩
    rw [hfilters]
    exact congrArg _ hspatial.symm

end SearchScope

/-! ### Combinations -/

/-- What a combination asks of its parts: of those that must match, of those that must not, and,
where there are only parts of the other kind and excluded ones, of those that may. -/
@[mk_iff]
structure Combines {α : Type} (l : List α) (occur : α → Occur) (holds : α → Prop) : Prop where
  must : ∀ a ∈ l, occur a = .must → holds a
  mustNot : ∀ a ∈ l, occur a = .mustNot → ¬ holds a
  should : (∃ a ∈ l, occur a = .should) → (∀ a ∈ l, occur a ≠ .must) →
    ∃ a ∈ l, occur a = .should ∧ holds a

theorem combine_iff (verdicts : List (Occur × Bool)) : combine verdicts = true ↔
    (∀ v ∈ verdicts, v.1 = .must → v.2 = true) ∧ (∀ v ∈ verdicts, v.1 = .mustNot → v.2 = false) ∧
      ((∃ v ∈ verdicts, v.1 = .must) ∨ ∃ v ∈ verdicts, v.1 = .should ∧ v.2 = true) := by
  simp only [combine, Bool.and_eq_true, Bool.or_eq_true, Bool.not_eq_true', List.all_eq_true,
    List.any_eq_true, List.any_eq_false, List.isEmpty_eq_false_iff_exists_mem, List.mem_filter,
    beq_iff_eq, and_assoc]
  simp

/-- **A combination matches** if it does not only exclude, and its parts are as it asks. -/
theorem combine_iff_combines {verdicts : List (Occur × Bool)} : combine verdicts = true ↔
    Combines verdicts Prod.fst (·.2 = true) ∧ ∃ v ∈ verdicts, v.1 ≠ .mustNot := by
  rw [combine_iff]
  constructor
  · rintro ⟨hmust, hnot, hsome⟩
    refine ⟨⟨hmust, fun v hv ho h => ?_, fun _ hno => ?_⟩, ?_⟩
    · rw [hnot v hv ho] at h
      cases h
    · rcases hsome with ⟨v, hv, ho⟩ | h
      · exact absurd ho (hno v hv)
      · exact h
    · rcases hsome with ⟨v, hv, ho⟩ | ⟨v, hv, ho, -⟩
      · exact ⟨v, hv, by rw [ho]; decide⟩
      · exact ⟨v, hv, by rw [ho]; decide⟩
  · rintro ⟨h, v, hv, ho⟩
    refine ⟨h.must, fun v hv ho => Bool.eq_false_iff.mpr (h.mustNot v hv ho), ?_⟩
    by_cases hmust : ∃ v ∈ verdicts, v.1 = .must
    · exact .inl hmust
    · have hno : ∀ v ∈ verdicts, v.1 ≠ .must := fun v hv ho => hmust ⟨v, hv, ho⟩
      refine .inr (h.should ⟨v, hv, ?_⟩ hno)
      cases heq : v.1 with
      | must => exact absurd heq (hno v hv)
      | should => rfl
      | mustNot => exact absurd heq ho

theorem combines_map {α β : Type} {f : α → β} {l : List α} {occur : β → Occur}
    {holds : β → Prop} : Combines (l.map f) occur holds ↔
      Combines l (fun a => occur (f a)) fun a => holds (f a) := by
  have hex (P : β → Prop) : (∃ b ∈ l.map f, P b) ↔ ∃ a ∈ l, P (f a) := by simp
  simp only [combines_iff, List.forall_mem_map, hex]

/-- Parts that only exclude ask that none of them holds. -/
theorem combines_iff_of_mustNot {α : Type} {l : List α} {occur : α → Occur} {holds : α → Prop}
    (hall : ∀ a ∈ l, occur a = .mustNot) : Combines l occur holds ↔ ∀ a ∈ l, ¬ holds a := by
  refine ⟨fun h a ha => h.mustNot a ha (hall a ha), fun h => ⟨fun a ha ho => ?_,
    fun a ha _ => h a ha, ?_⟩⟩
  · rw [hall a ha] at ho
    cases ho
  · rintro ⟨a, ha, ho⟩
    rw [hall a ha] at ho
    cases ho

/-- Parts that only exclude ask the same beside one that holds. -/
theorem combines_append_must {verdicts : List (Occur × Bool)}
    (hall : ∀ v ∈ verdicts, v.1 = .mustNot) :
    Combines (verdicts ++ [(.must, true)]) Prod.fst (·.2 = true) ↔
      Combines verdicts Prod.fst (·.2 = true) := by
  rw [combines_iff_of_mustNot hall]
  refine ⟨fun h v hv => h.mustNot v (List.mem_append_left _ hv) (hall v hv), fun h => ⟨?_, ?_, ?_⟩⟩
  · rw [List.forall_mem_append, List.forall_mem_singleton]
    exact ⟨fun v hv ho => absurd (ho.symm.trans (hall v hv)) (by decide), fun _ => rfl⟩
  · rw [List.forall_mem_append, List.forall_mem_singleton]
    exact ⟨fun v hv _ => h v hv, nofun⟩
  · exact fun _ hno => absurd rfl
      (hno (.must, true) (List.mem_append_right _ (List.mem_singleton_self _)))

theorem combinedQuery_eq_none_iff {parts : List (Occur × Query)} :
    combinedQuery parts = none ↔ parts = [] := by
  cases parts with
  | nil => exact iff_of_true rfl rfl
  | cons part parts =>
    refine iff_of_false ?_ nofun
    simp only [combinedQuery, List.isEmpty_cons, Bool.false_eq_true, if_false]
    split <;> nofun

namespace Query

variable {p : Place}

theorem finds_boolean (parts : List (Occur × Query)) (p : Place) :
    (Query.boolean parts).finds p = combine (parts.map fun part => (part.1, part.2.finds p)) := by
  rw [finds, accepts, verdicts_eq_map]
  rfl

/-- A boost changes how much a query counts, and not what it accepts. -/
theorem accepts_boosted (among : List Entry) (e : Entry) (q : Query) (boost : Option Float32) :
    accepts among e (q.boosted boost) = accepts among e q := by
  cases boost with
  | none => rfl
  | some factor => rw [boosted, accepts]

theorem finds_allOf_pair (q r : Query) (p : Place) :
    (Query.allOf [q, r]).finds p = (q.finds p && r.finds p) := by
  rw [finds, accepts_allOf]
  simp [finds]

/-- **What a combination finds**, the one that only excludes included. -/
theorem finds_combinedQuery_iff {parts : List (Occur × Query)} {q : Query}
    (h : combinedQuery parts = some q) (p : Place) :
    q.finds p = true ↔
      Combines (parts.map fun part => (part.1, part.2.finds p)) Prod.fst (·.2 = true) := by
  unfold combinedQuery at h
  split at h
  · cases h
  · split at h
    · next hall =>
      cases h
      have hnot : ∀ v ∈ parts.map (fun part => (part.1, part.2.finds p)), v.1 = .mustNot :=
        List.forall_mem_map.mpr fun part hpart => by simpa using List.all_eq_true.mp hall part hpart
      rw [finds_boolean, List.map_append, List.map_singleton, combine_iff_combines]
      refine (and_iff_left ?_).trans (combines_append_must hnot)
      exact ⟨_, List.mem_append_right _ (List.mem_singleton_self _), nofun⟩
    · next hall =>
      cases h
      rw [finds_boolean, combine_iff_combines]
      refine and_iff_left ?_
      obtain ⟨part, hpart, ho⟩ : ∃ part ∈ parts, part.1 ≠ .mustNot := by simpa using hall
      exact ⟨_, List.mem_map_of_mem hpart, ho⟩

/-- If there is a combination, it asks of its parts what it asks; without parts there is none. -/
theorem combines_iff_forall_finds (parts : List (Occur × Query)) (p : Place) :
    Combines (parts.map fun part => (part.1, part.2.finds p)) Prod.fst (·.2 = true) ↔
      ∀ q, combinedQuery parts = some q → q.finds p = true := by
  cases hq : combinedQuery parts with
  | none =>
    obtain rfl := combinedQuery_eq_none_iff.mp hq
    exact iff_of_true ⟨nofun, nofun, nofun⟩ nofun
  | some q =>
    rw [← finds_combinedQuery_iff hq]
    exact ⟨fun h r hr => Option.some.inj hr ▸ h, fun h => h q rfl⟩

end Query

/-! ### What a list of clauses selects

Alone a clause is compiled with the occurrence that asks for it, which may not be its own; its query
is the same. So the verdicts on the parts of a combination are those on the clauses alone.
-/

/-- What a search for something finds: what its combination and its area both find. -/
theorem QueryDescriptor.selects_eq_true_iff {d : QueryDescriptor} {q : Query}
    (hq : d.toQuery? = some q) (p : Place) : d.selects p = true ↔
      (∀ r, d.query = some r → r.finds p = true) ∧
        ∀ f, d.spatial = some f → f.selects p = true := by
  obtain ⟨_ | r, _ | f⟩ := d
  · cases hq
  · simp [selects, toQuery?, SpatialFilter.selects]
  · simp [selects, toQuery?]
  · simp [selects, toQuery?, SpatialFilter.selects, Query.finds_allOf_pair, and_assoc]

namespace SearchScope

variable {scope : SearchScope} {clauses : List Clause} {d : QueryDescriptor} {p : Place}

/-- Whether the search for a clause alone, as one that must match, finds a place. -/
def findsAlone (scope : SearchScope) (c : Clause) (p : Place) : Bool :=
  match scope.build [{ c with occur := .must }] with
  | .ok d => d.selects p
  | .error _ => false

/-- A clause about a property that is compiled at all is compiled alone. -/
theorem build_alone {c : Clause} {q : Query} (hc : c.area? = none)
    (hq : scope.propertyQuery c = .ok q) :
    scope.build [{ c with occur := .must }] = .ok ⟨some (.boolean [(.must, q)]), none⟩ := by
  have hc' : ({ c with occur := .must } : Clause).area? = none := hc
  have hq' : scope.propertyQuery { c with occur := .must } = .ok q := hq
  rw [build, List.foldlM_cons, compileClause_of_not_isArea hc', partOf, hq']
  rfl

/-- How a clause about a property is compiled alone. -/
theorem build_alone_eq {c : Clause} (hc : c.area? = none) :
    scope.build [{ c with occur := .must }] =
      (scope.propertyQuery c).map fun q => ⟨some (.allOf [q]), none⟩ := by
  cases hq : scope.propertyQuery c with
  | ok q => exact build_alone hc hq
  | error e =>
    have hc' : ({ c with occur := .must } : Clause).area? = none := hc
    have hq' : scope.propertyQuery { c with occur := .must } = .error e := hq
    rw [build, List.foldlM_cons, compileClause_of_not_isArea hc', partOf, hq']
    rfl

/-- Alone a clause about a property finds what its query finds. -/
theorem findsAlone_of_propertyQuery {c : Clause} {q : Query} (hc : c.area? = none)
    (hq : scope.propertyQuery c = .ok q) (p : Place) : scope.findsAlone c p = q.finds p := by
  rw [findsAlone, build_alone hc hq]
  simp only [QueryDescriptor.selects, QueryDescriptor.toQuery?, Option.any_some, Option.all_none,
    Bool.and_true, Query.finds_boolean, List.map_cons, List.map_nil]
  cases q.finds p <;> rfl

/-- The parts of clauses have the verdicts of the clauses alone. -/
theorem map_verdict_eq {cs : List Clause} {parts : List (Occur × Query)}
    (hcs : ∀ c ∈ cs, c.area? = none) (hparts : cs.mapM scope.partOf = .ok parts) (p : Place) :
    parts.map (fun part => (part.1, part.2.finds p)) =
      cs.map fun c => (c.occur, scope.findsAlone c p) := by
  induction cs generalizing parts with
  | nil =>
    cases hparts
    rfl
  | cons c cs ih =>
    rw [List.forall_mem_cons] at hcs
    obtain ⟨part, rest, hpart, hrest, rfl⟩ := mapM_cons_ok hparts
    obtain ⟨q, hq, rfl⟩ := exists_of_partOf hpart
    rw [List.map_cons, List.map_cons, ih hcs.2 hrest, findsAlone_of_propertyQuery hcs.1 hq]

/-- Clauses that are neither about properties nor about an area are none. -/
theorem eq_nil_of_propertyClauses (hproperty : propertyClauses clauses = [])
    (harea : clauses.filterMap Clause.area? = []) : clauses = [] := by
  cases clauses with
  | nil => rfl
  | cons c clauses =>
    cases hc : c.area? with
    | none => rw [propertyClauses_cons_of_none hc] at hproperty; cases hproperty
    | some a => rw [List.filterMap_cons_some hc] at harea; cases harea

/-- There is something to search for wherever there are clauses. -/
theorem exists_toQuery? (hbuild : scope.build clauses = .ok d) (hne : clauses ≠ []) :
    ∃ q, d.toQuery? = some q := by
  obtain ⟨parts, hparts, hfilters, hquery⟩ := exists_of_build hbuild
  unfold QueryDescriptor.toQuery?
  cases hq : d.query with
  | some q => cases d.spatial <;> exact ⟨_, rfl⟩
  | none =>
    cases hspatial : d.spatial with
    | some f => exact ⟨_, rfl⟩
    | none =>
      rw [hspatial] at hfilters
      rw [combinedQuery_eq_none_iff.mp (hquery.symm.trans hq)] at hparts
      exact absurd (eq_nil_of_propertyClauses (eq_nil_of_mapM_ok hparts)
        (eq_nil_of_mapM_ok hfilters)) hne

/-- The clauses about properties select what their combination selects. -/
theorem combines_iff_forall_finds (hbuild : scope.build clauses = .ok d) (p : Place) :
    Combines (propertyClauses clauses) Clause.occur (fun c => scope.findsAlone c p = true) ↔
      ∀ r, d.query = some r → r.finds p = true := by
  obtain ⟨parts, hparts, -, hquery⟩ := exists_of_build hbuild
  have hverdicts := map_verdict_eq (fun c hc => (mem_propertyClauses.mp hc).2) hparts p
  rw [hquery, ← Query.combines_iff_forall_finds, hverdicts, combines_map]

/-- An area clause is compiled to its filter, whatever its occurrence. -/
theorem build_of_area {c : Clause} {a : SearchArea} {f : SpatialFilter} (hc : c.area? = some a)
    (hf : scope.spatialFilter a = .ok f) : scope.build [c] = .ok ⟨none, some f⟩ := by
  rw [build, List.foldlM_cons, compileClause_of_area hc, hf]
  rfl

theorem build_alone_of_area {c : Clause} {a : SearchArea} {f : SpatialFilter}
    (hc : c.area? = some a) (hf : scope.spatialFilter a = .ok f) :
    scope.build [{ c with occur := .must }] = .ok ⟨none, some f⟩ :=
  build_of_area (c := { c with occur := .must }) hc hf

/-- Alone an area clause finds what its area finds. -/
theorem findsAlone_of_area {c : Clause} {a : SearchArea} {f : SpatialFilter}
    (hc : c.area? = some a) (hf : scope.spatialFilter a = .ok f) (p : Place) :
    scope.findsAlone c p = f.selects p := by
  rw [findsAlone, build_alone_of_area hc hf]
  rfl

theorem area_eq_of_spatialFilter {a : SearchArea} {f : SpatialFilter}
    (h : scope.spatialFilter a = .ok f) : f.area = a := by
  unfold spatialFilter at h
  split at h
  · cases h
    rfl
  · cases h

/-- An area clause is compiled to the filter, and there is no filter without one. -/
theorem spatial_eq_some_iff (hbuild : scope.build clauses = .ok d) (f : SpatialFilter) :
    d.spatial = some f ↔
      ∃ c ∈ clauses, ∃ a, c.area? = some a ∧ scope.spatialFilter a = .ok f := by
  obtain ⟨-, -, hfilters, -⟩ := exists_of_build hbuild
  have htoList : d.spatial = some f ↔ f ∈ d.spatial.toList := Option.mem_toList.symm
  simp only [htoList, mem_iff_of_mapM hfilters, List.mem_filterMap]
  constructor
  · rintro ⟨a, ⟨c, hc, ha⟩, hf⟩
    exact ⟨c, hc, a, ha, hf⟩
  · rintro ⟨c, hc, a, ha, hf⟩
    exact ⟨a, ⟨c, hc, ha⟩, hf⟩

/-- The area of a clause is compiled with the others. -/
theorem exists_spatialFilter {c : Clause} {a : SearchArea} (hbuild : scope.build clauses = .ok d)
    (hc : c ∈ clauses) (ha : c.area? = some a) :
    ∃ f, scope.spatialFilter a = .ok f ∧ d.spatial = some f := by
  obtain ⟨-, -, hfilters, -⟩ := exists_of_build hbuild
  obtain ⟨f, hf⟩ := exists_of_mem_of_mapM hfilters (List.mem_filterMap.mpr ⟨c, hc, ha⟩)
  exact ⟨f, hf, (spatial_eq_some_iff hbuild f).mpr ⟨c, hc, a, ha, hf⟩⟩

/-- Clauses that are compiled together are compiled alone. -/
theorem exists_build_alone {c : Clause} (hbuild : scope.build clauses = .ok d) (hc : c ∈ clauses) :
    ∃ d', scope.build [{ c with occur := .must }] = .ok d' ∧
      ∀ p, d'.selects p = scope.findsAlone c p := by
  suffices h : ∃ d', scope.build [{ c with occur := .must }] = .ok d' by
    obtain ⟨d', hd'⟩ := h
    exact ⟨d', hd', fun p => by rw [findsAlone, hd']⟩
  cases harea : c.area? with
  | none =>
    obtain ⟨parts, hparts, -⟩ := exists_of_build hbuild
    obtain ⟨part, hpart⟩ := exists_of_mem_of_mapM hparts (mem_propertyClauses.mpr ⟨hc, harea⟩)
    obtain ⟨q, hq, -⟩ := exists_of_partOf hpart
    exact ⟨_, build_alone harea hq⟩
  | some a =>
    obtain ⟨f, hf, -⟩ := exists_spatialFilter hbuild hc harea
    exact ⟨_, build_alone_of_area harea hf⟩

/-- **What a list of clauses selects**, by what the clauses find alone. -/
theorem selects_iff (hbuild : scope.build clauses = .ok d) (hne : clauses ≠ []) (p : Place) :
    d.selects p = true ↔
      Combines (propertyClauses clauses) Clause.occur (fun c => scope.findsAlone c p = true) ∧
        ∀ c ∈ clauses, c.isArea = true → scope.findsAlone c p = true := by
  obtain ⟨q, hq⟩ := exists_toQuery? hbuild hne
  rw [QueryDescriptor.selects_eq_true_iff hq, combines_iff_forall_finds hbuild]
  refine and_congr_right fun _ => ⟨fun h c hc harea => ?_, fun h f hf => ?_⟩
  · rw [c.isArea_eq] at harea
    obtain ⟨a, ha⟩ := Option.isSome_iff_exists.mp harea
    obtain ⟨f, hf, hspatial⟩ := exists_spatialFilter hbuild hc ha
    rw [findsAlone_of_area ha hf]
    exact h f hspatial
  · obtain ⟨c, hc, a, ha, hfilter⟩ := (spatial_eq_some_iff hbuild f).mp hf
    rw [← findsAlone_of_area ha hfilter]
    exact h c hc (by rw [c.isArea_eq, ha]; rfl)

end SearchScope

end Catalog
