import Catalog.Proofs.Area
import Catalog.Proofs.Schema.FieldNames
import Catalog.Proofs.Search.Combined
import Catalog.Proofs.Search.Lookup
import Catalog.Proofs.Search.Ordering

/-!
# What an area search returns

An area search looks for the box of its circle among the coordinates that are kept of each record,
and then tells by the same coordinates what lies in the circle. So it returns the records whose
points are in both. Those of the circle that the box leaves out are lost.

## Main definitions

* `Property.point?`: the point that a record has for a property
* `Entry.HasPoint`: an entry that is found under the coordinates of a point

## Main results

* `Store.IsBuiltFor.hasPoint_of_isEntryOf`: the entry of a record has the point of the record
* `Entry.HasPoint.accepts_query_iff`: what the query of an area accepts
* `Searcher.returns_area_of_run`: what an area search returns after any calls
* `Searcher.not_returns_near_circle`: a circle with usual coordinates that is not returned
-/

namespace Catalog

open Binary64

variable {σ ρ : Type}

/-! ### The coordinates of an entry -/

/-- The fields of the two coordinates, each with the coordinate that it keeps. -/
def SpatialFields.coordinates (f : SpatialFields) : List (String × (GeoPoint → Float)) :=
  [(f.x, GeoPoint.longitude), (f.y, GeoPoint.latitude)]

/-- The point that a record has for a property. -/
def Property.point? (P : Property ρ) (r : ρ) : Option GeoPoint :=
  match P.type.toField (P.get r) with
  | .ok (some (.geo p)) => some p
  | _ => none

/-- An entry whose document has a point, and that is found under its coordinates. -/
structure Entry.HasPoint (e : Entry) (f : SpatialFields) (p? : Option GeoPoint) : Prop where
  point?_document : e.document.point? f = p?
  terms_eq : ∀ c ∈ f.coordinates,
    e.terms c.1 = p?.toList.map fun p => .double (.ofFloat (c.2 p))

theorem Binding.spatial?_of_isGeo {b : Binding} (h : b.isGeo = true) :
    b.spatial? = some (.ofProperty b.property) :=
  if_pos (beq_iff_eq.mp h)

theorem Binding.analysisField?_of_isGeo {b : Binding} (h : b.isGeo = true) :
    b.analysisField? = none := by
  have hrole : b.role = .geo := beq_iff_eq.mp h
  rw [analysisField?, if_neg (by rw [hrole]; decide)]

theorem Double.toFloat_ofFloat (x : Float) : (Double.ofFloat x).toFloat = x :=
  Float.ofBits_toBits x

/-- What a property that is searched by area writes: nothing, or its text and the values of its
point. -/
theorem Property.values_of_isGeo {P : Property ρ} (hgeo : P.binding.isGeo = true) {r : ρ}
    {part : List (String × Payload)} (hpart : P.column.values r = .ok part) :
    P.point? r = none ∧ (∀ e ∈ part, e.1 = P.binding.field) ∨
      ∃ p payload, P.point? r = some p ∧
        part = (P.binding.field, payload) :: (SpatialFields.ofProperty P.name).values p := by
  have hread : P.column.accessor.read r = P.type.toField (P.get r) := rfl
  have hanalysis : P.column.binding.analysisField? = none := Binding.analysisField?_of_isGeo hgeo
  have hspatial : P.column.binding.spatial? = some (.ofProperty P.name) := by
    rw [← P.binding_property]
    exact Binding.spatial?_of_isGeo hgeo
  simp only [Column.values, hread, hanalysis, Binding.spatialValues, hspatial] at hpart
  rw [point?]
  cases hfield : P.type.toField (P.get r) with
  | error e =>
    rw [hfield] at hpart
    cases hpart
  | ok v? =>
    cases v? with
    | none =>
      rw [hfield] at hpart
      obtain rfl := Except.ok.inj hpart
      exact .inl ⟨rfl, fun e he => absurd he List.not_mem_nil⟩
    | some v =>
      rw [hfield] at hpart
      simp only at hpart
      cases hencode : P.column.binding.kind.encode v with
      | error e =>
        rw [hencode] at hpart
        cases hpart
      | ok payload =>
        rw [hencode] at hpart
        obtain rfl := Except.ok.inj hpart
        cases v with
        | geo p => exact .inr ⟨p, payload, rfl, rfl⟩
        | _ => exact .inl ⟨rfl, fun e he => by rw [List.mem_singleton.mp he]; rfl⟩

/-- What a property that is searched by area writes under the name of a coordinate. -/
theorem Property.filter_values_of_isGeo {P : Property ρ} (hgeo : P.binding.isGeo = true)
    (hnodup : P.binding.fieldNames.Nodup) {r : ρ} {part : List (String × Payload)}
    (hpart : P.column.values r = .ok part) {c : String × (GeoPoint → Float)}
    (hc : c ∈ (SpatialFields.ofProperty P.name).coordinates) :
    part.filter (fun e => e.1 == c.1) =
      (P.point? r).toList.map fun p => (c.1, .double (.ofFloat (c.2 p))) := by
  have hnames : P.binding.fieldNames = P.binding.field ::
      (SpatialFields.ofProperty P.name).point ::
        (SpatialFields.ofProperty P.name).coordinates.map Prod.fst := by
    rw [Binding.fieldNames_eq, Binding.analysisField?_of_isGeo hgeo,
      Binding.spatial?_of_isGeo hgeo, P.binding_property]
    rfl
  rw [hnames, List.nodup_cons, List.nodup_cons, List.mem_cons, not_or] at hnodup
  obtain ⟨⟨-, hfield⟩, hpoint, hcoordinates⟩ := hnodup
  have hne : P.binding.field ≠ c.1 := fun heq => hfield (heq ▸ List.mem_map_of_mem hc)
  have hne' : (SpatialFields.ofProperty P.name).point ≠ c.1 := fun heq =>
    hpoint (heq ▸ List.mem_map_of_mem hc)
  rcases Property.values_of_isGeo hgeo hpart with ⟨hnone, hpart⟩ | ⟨p, payload, hsome, rfl⟩
  · rw [hnone, Option.toList_none, List.map_nil, List.filter_eq_nil_iff]
    intro e he
    rw [hpart e he]
    simpa using hne
  · rw [hsome, Option.toList_some, List.map_singleton, List.filter_cons_of_neg (by simpa using hne),
      SpatialFields.values, List.filter_cons_of_neg (by simpa using hne')]
    have hxy : (SpatialFields.ofProperty P.name).x ≠ (SpatialFields.ofProperty P.name).y := by
      simpa [SpatialFields.coordinates] using hcoordinates
    rcases List.mem_cons.mp hc with rfl | hc
    · rw [List.filter_cons_of_pos (by simp), List.filter_cons_of_neg (by simpa using hxy.symm),
        List.filter_nil]
    · obtain rfl := List.mem_singleton.mp hc
      rw [List.filter_cons_of_neg (by simpa using hxy), List.filter_cons_of_pos (by simp),
        List.filter_nil]

namespace Store.IsBuiltFor

variable {s : Store ρ} {R : RecordDescription ρ} (h : s.IsBuiltFor R) {P : Property ρ}
  (hP : P ∈ R.properties) (hgeo : P.binding.isGeo = true)

include h

/-- The bindings of a record type go together. -/
theorem resolvable : Resolvable s.schema.bindings := by
  have hbindings : s.schema.bindings = R.properties.map Property.binding := by
    rw [Schema.bindings, RecordDescription.columns_of_build h.build, List.map_map]
    rfl
  rw [hbindings]
  exact (resolveBindings_eq_ok_iff.mp (RecordDescription.resolveBindings_of_build h.build)).2

include hP hgeo

/-- A coordinate is kept as a number. -/
theorem find?_coordinate {c : String × (GeoPoint → Float)}
    (hc : c ∈ (SpatialFields.ofProperty P.name).coordinates) :
    (s.fields.find? fun g => g.name == c.1) = some (.raw c.1 .double) := by
  refine h.find?_field hP (f := .raw c.1 .double) ?_
  rw [Binding.storeFields, Binding.spatial?_of_isGeo hgeo, P.binding_property]
  refine List.mem_append_right _ (List.mem_cons_of_mem _ ?_)
  rcases List.mem_cons.mp hc with rfl | hc
  · exact List.mem_cons_self ..
  · rw [List.mem_singleton.mp hc]
    exact List.mem_cons_of_mem _ (List.mem_cons_self ..)

/-- The document of a record has the coordinates of its point, and no others. -/
theorem filter_coordinate {r : ρ} {implicit : Option RecordId} {d : Document}
    (himplicit : s.schema.Admits implicit) (hd : s.schema.toDocument r implicit = .ok d)
    {c : String × (GeoPoint → Float)}
    (hc : c ∈ (SpatialFields.ofProperty P.name).coordinates) :
    d.values.filter (fun v => v.1 == c.1) =
      (P.point? r).toList.map fun p => (c.1, .double (.ofFloat (c.2 p))) := by
  have hcolumn := RecordDescription.column_mem_of_build h.build hP
  have hnodup : P.binding.fieldNames.Nodup :=
    (List.nodup_flatMap.mp (Schema.nodup_fieldNames h.nodup)).1 _ hcolumn
  have hname : c.1 ∈ P.binding.fieldNames := by
    rw [Binding.fieldNames_eq, Binding.spatial?_of_isGeo hgeo, P.binding_property]
    refine List.mem_cons_of_mem _ (List.mem_append_right _ (List.mem_cons_of_mem _ ?_))
    exact List.mem_map_of_mem (f := Prod.fst) hc
  obtain ⟨part, hpart, hfilter⟩ := filter_toDocument_of_mem h.nodup himplicit hd hcolumn hname
  rw [hfilter]
  exact Property.filter_values_of_isGeo hgeo hnodup hpart hc

/-- **The entry of a record has the point of the record.** -/
theorem hasPoint_of_isEntryOf {r : ρ} {e : Entry} (he : s.IsEntryOf r e) :
    e.HasPoint (.ofProperty P.name) (P.point? r) := by
  obtain ⟨implicit, himplicit, he⟩ := he
  obtain ⟨hd, hentry⟩ := Store.entry_eq_ok_iff.mp he
  refine ⟨?_, fun c hc => ?_⟩
  · have hstored : ∀ c ∈ (SpatialFields.ofProperty P.name).coordinates,
        e.document.stored? c.1 .float =
          (P.point? r).map fun p => .double (.ofFloat (c.2 p)) := by
      intro c hc
      rw [Document.stored?, Document.first?, ← List.head?_filter,
        h.filter_coordinate hP hgeo himplicit hd hc]
      cases P.point? r <;> rfl
    have hx := hstored _ (List.mem_cons_self ..)
    have hy := hstored _ (List.mem_cons_of_mem _ (List.mem_singleton_self _))
    simp only at hx hy
    rw [Document.point?, hx, hy]
    cases P.point? r with
    | none => rfl
    | some p =>
      show some (⟨(Double.ofFloat p.latitude).toFloat, (Double.ofFloat p.longitude).toFloat⟩ :
        GeoPoint) = some p
      rw [Double.toFloat_ofFloat, Double.toFloat_ofFloat]
  · rw [hentry, Entry.terms_ofDocument, h.filter_coordinate hP hgeo himplicit hd hc]
    cases P.point? r with
    | none => rfl
    | some p =>
      rw [Option.toList_some, List.map_singleton, List.flatMap_singleton, namedPostings,
        h.find?_coordinate hP hgeo hc]
      rfl

/-- After any calls on a new index, clearing included, each entry that is there has the point of its
record. -/
theorem exists_hasPoint_of_run (g : IdGenerator σ) (ids : σ) (calls : List (Call ρ)) {p : Place}
    (hp : p ∈ (s.newWriter.runCalls s g ids calls).1.index.snapshot.places) :
    ∃ r, s.IsEntryOf r p.entry ∧ p.entry.HasPoint (.ofProperty P.name) (P.point? r) := by
  obtain ⟨slot, hslot, hentry⟩ := Index.exists_slot_of_mem_places hp
  have hentries := Writer.forall_isEntry_of_steps (s.newWriter.steps_runCalls s g ids calls)
  obtain ⟨r, hr⟩ := hentries.committed slot hslot
  rw [hentry] at hr
  exact ⟨r, hr, h.hasPoint_of_isEntryOf hP hgeo hr⟩

/-- The filter of an area reads the fields of the one property that is searched by area. -/
theorem spatialFilter_eq (a : SearchArea) :
    s.scope.spatialFilter a = .ok ⟨a, .ofProperty P.name⟩ := by
  have hmem : P.binding ∈ s.schema.bindings :=
    List.mem_map_of_mem (RecordDescription.column_mem_of_build h.build hP)
  have hspatial := Binding.spatial?_of_isGeo hgeo
  rw [P.binding_property] at hspatial
  have hfound : s.scope.bindings.findSome? Binding.spatial? = some (.ofProperty P.name) := by
    cases hf : s.scope.bindings.findSome? Binding.spatial? with
    | none =>
      rw [List.findSome?_eq_none_iff.mp hf _ hmem] at hspatial
      cases hspatial
    | some f =>
      obtain ⟨b, hb, hbf⟩ := List.exists_of_findSome?_eq_some hf
      have hgeo' : b.isGeo = true := by
        rw [Binding.spatial?] at hbf
        split at hbf
        · next hrole => rw [Binding.isGeo, hrole]; rfl
        · cases hbf
      obtain rfl := h.resolvable.eq_of_isGeo hb hmem hgeo' hgeo
      rw [← hbf, hspatial]
  rw [SearchScope.spatialFilter, hfound]

end Store.IsBuiltFor

/-! ### The query of an area -/

/-- Whether a search for an area finds a point: it lies in the circle and in the box around it. -/
def SearchArea.finds (a : SearchArea) (p : GeoPoint) : Bool :=
  a.contains p && decide (a.boundingBox.Admits p)

theorem SearchArea.finds_iff {a : SearchArea} {p : GeoPoint} :
    a.finds p = true ↔ a.contains p = true ∧ a.boundingBox.Admits p := by
  rw [finds, Bool.and_eq_true, decide_eq_true_iff]

theorem SpatialFilter.liesIn_of_point? {f : SpatialFilter} {d : Document} {p : GeoPoint}
    (h : d.point? f.fields = some p) : f.liesIn d = f.area.contains p := by
  rw [liesIn, h, Option.any_some]

/-- A search for an area finds what lies in the circle, as far as the box admits it. -/
theorem SpatialFilter.any_finds_iff {f : SpatialFilter} {d : Document} :
    (d.point? f.fields).any f.area.finds = true ↔ f.liesIn d = true ∧
      ∀ p, d.point? f.fields = some p → f.area.boundingBox.Admits p := by
  rw [liesIn]
  cases d.point? f.fields with
  | none => exact iff_of_false Bool.false_ne_true fun h => Bool.false_ne_true h.1
  | some p =>
    rw [Option.any_some, Option.any_some, SearchArea.finds_iff]
    simp

theorem Double.compare_order_ne_gt_iff (x y : Float) :
    ((Payload.double (.ofFloat x)).compare (.double (.ofFloat y)) != .gt) = true ↔
      rank x ≤ rank y := by
  rw [bne_iff_ne]
  show compare (rank x) (rank y) ≠ .gt ↔ _
  rw [Ne, compare_gt_iff_gt, not_lt]

namespace Entry.HasPoint

variable {e : Entry} {f : SpatialFields} {p? : Option GeoPoint} (h : e.HasPoint f p?)

include h

/-- A coordinate is found in a range just if there is a point, and it stands between the ends. -/
theorem accepts_between_iff {c : String × (GeoPoint → Float)} (hc : c ∈ f.coordinates)
    (lower upper : Float) (among : List Entry) :
    (Query.between c.1 (.double (.ofFloat lower)) (.double (.ofFloat upper))).accepts among e =
      true ↔ ∃ p, p? = some p ∧ rank lower ≤ rank (c.2 p) ∧ rank (c.2 p) ≤ rank upper := by
  rw [Query.between, Query.accepts, h.terms_eq c hc]
  cases p? with
  | none => simp
  | some p =>
    rw [Option.toList_some, List.map_singleton, List.any_cons, List.any_nil, Bool.or_false,
      Bool.and_eq_true]
    show (_ != _) = true ∧ (_ != _) = true ↔ _
    rw [Double.compare_order_ne_gt_iff, Double.compare_order_ne_gt_iff]
    simp

/-- **What the query of an area accepts**: the points that the box of its circle admits. -/
theorem accepts_query_iff (a : SearchArea) (among : List Entry) :
    (SpatialFilter.query ⟨a, f⟩).accepts among e = true ↔
      ∃ p, p? = some p ∧ a.boundingBox.Admits p := by
  rw [SpatialFilter.query]
  simp only [Query.accepts_allOf, List.isEmpty_cons, List.all_cons, List.all_nil, Bool.and_true,
    Bool.not_false, Bool.true_and, Bool.and_eq_true]
  rw [h.accepts_between_iff (c := (f.x, GeoPoint.longitude)) (List.mem_cons_self ..),
    h.accepts_between_iff (c := (f.y, GeoPoint.latitude))
      (List.mem_cons_of_mem _ (List.mem_singleton_self _))]
  simp only [BoundingBox.admits_iff]
  constructor
  · rintro ⟨⟨p, rfl, hlon⟩, p', hp', hlat⟩
    cases hp'
    exact ⟨p, rfl, hlon, hlat⟩
  · rintro ⟨p, rfl, hlon, hlat⟩
    exact ⟨⟨p, rfl, hlon⟩, p, rfl, hlat⟩

/-- An area search finds an entry just if it finds the point of the entry. -/
theorem selects_eq {p : Place} (hp : p.entry = e) (a : SearchArea) :
    SpatialFilter.selects ⟨a, f⟩ p = (p.document.point? f).any a.finds := by
  have hquery : (SpatialFilter.query ⟨a, f⟩).finds p = true ↔
      ∃ pt, p? = some pt ∧ a.boundingBox.Admits pt := by
    rw [Query.finds, hp]
    exact h.accepts_query_iff a p.among
  have hdocument : p.document.point? f = p? := by rw [Place.document, hp, h.point?_document]
  rw [Bool.eq_iff_iff, SpatialFilter.selects, Bool.and_eq_true, hquery, SpatialFilter.liesIn,
    hdocument]
  cases p? with
  | none => simp
  | some pt => simp [SearchArea.finds, and_comm]

end Entry.HasPoint

/-! ### What is returned -/

namespace Searcher

section

variable {x : Searcher ρ} {clauses : List Clause} {size : Nat} {sort : List SortOption}
  {wanted wanted' : Place → Prop}

/-- What is returned is settled by the places that there are. -/
theorem Returns.congr (h : x.Returns clauses size sort wanted)
    (hiff : ∀ p ∈ x.snapshot.places, wanted p ↔ wanted' p) :
    x.Returns clauses size sort wanted' := by
  obtain ⟨d, hits, expected, hbuild, hexpected, hhits, hperm⟩ := h
  refine ⟨d, hits, expected, hbuild, ?_, hhits, hperm⟩
  rw [← hexpected]
  exact congrArg (List.mapM (x.hit d))
    (List.filter_congr fun p hp => decide_eq_decide.mpr (hiff p hp).symm)

/-- Where a search returns just some places, it does not return just others among which they are,
unless there are no others. -/
theorem Returns.of_imp (h : x.Returns clauses size sort wanted)
    (h' : x.Returns clauses size sort wanted')
    (himp : ∀ p ∈ x.snapshot.places, wanted p → wanted' p) :
    ∀ p ∈ x.snapshot.places, wanted' p → wanted p := by
  classical
  obtain ⟨d, hits, expected, hbuild, hexpected, hhits, hperm⟩ := h
  obtain ⟨d', hits', expected', hbuild', hexpected', hhits', hperm'⟩ := h'
  cases hbuild.symm.trans hbuild'
  cases hhits.symm.trans hhits'
  have hlength := (mapM_eq_ok_iff.mp hexpected).length_eq.trans
    ((hperm.symm.trans hperm').length_eq.trans (mapM_eq_ok_iff.mp hexpected').length_eq.symm)
  -- the former are filtered from the latter, and there are as many
  have hfilter : x.snapshot.places.filter (wanted ·) =
      (x.snapshot.places.filter (wanted' ·)).filter (wanted ·) := by
    rw [List.filter_filter]
    refine List.filter_congr fun p hp => ?_
    rw [← Bool.decide_and, decide_eq_decide]
    exact ⟨fun hw => ⟨hw, himp p hp hw⟩, And.left⟩
  rw [hfilter, List.length_filter_eq_length_iff] at hlength
  intro p hp hwanted
  exact of_decide_eq_true (hlength p (List.mem_filter.mpr ⟨hp, decide_eq_true hwanted⟩))

/-- A search that returns what it finds of an area returns the circle just if the box around it
leaves out nothing. -/
theorem Returns.circle_iff {f : SpatialFilter}
    (h : x.Returns clauses size sort fun p =>
      (p.document.point? f.fields).any f.area.finds = true) :
    (x.Returns clauses size sort fun p => f.liesIn p.document = true) ↔
      ∀ p ∈ x.snapshot.places, ∀ pt, p.document.point? f.fields = some pt →
        f.area.contains pt = true → f.area.boundingBox.Admits pt := by
  constructor
  · intro hcircle p hp pt hpt hcontains
    have hlies := (SpatialFilter.liesIn_of_point? hpt).trans hcontains
    have hall := h.of_imp hcircle fun _ _ hfinds => (SpatialFilter.any_finds_iff.mp hfinds).1
    exact (SpatialFilter.any_finds_iff.mp (hall p hp hlies)).2 pt hpt
  · intro hbox
    refine h.congr fun p hp => SpatialFilter.any_finds_iff.trans ⟨And.left, fun hlies => ?_⟩
    exact ⟨hlies, fun pt hpt =>
      hbox p hp pt hpt ((SpatialFilter.liesIn_of_point? hpt).symm.trans hlies)⟩

end

/-- **What an area search returns after any calls on a new index.** Each document that is there has
the point of its record. Of the documents an area search finds, whatever the occurrence of its
clause, those whose point is in the circle and in the box, and it returns their records. So it
returns the circle just if the box leaves out nothing of it. A point without usual coordinates it
does not find. -/
theorem returns_area_of_run {x : Searcher ρ} {R : RecordDescription ρ}
    (h : x.store.IsBuiltFor R) {P : Property ρ} (hP : P ∈ R.properties)
    (hgeo : P.binding.isGeo = true) (g : IdGenerator σ) (ids : σ) (calls : List (Call ρ))
    (hsees : x.snapshot = (x.store.newWriter.runCalls x.store g ids calls).1.index.snapshot)
    {c : Clause} {a : SearchArea} (harea : c.area? = some a) {sort : List SortOption}
    {keys : List SortKey} (hsort : x.store.scope.sortKeys sort = .ok keys) :
    let f : SpatialFilter := ⟨a, .ofProperty P.name⟩
    let isFound (d : Document) : Bool := (d.point? f.fields).any a.finds
    x.store.scope.build [c] = .ok ⟨none, some f⟩ ∧
    (∀ p ∈ x.snapshot.places, ∃ r, x.store.IsEntryOf r p.entry ∧
      p.document.point? f.fields = P.point? r) ∧
    ((x.snapshot.ordering f.query (some f) keys).map Candidate.document).Perm
      ((x.snapshot.places.map Place.document).filter isFound) ∧
    (∀ size, x.Decodes → 0 < size → x.count ≤ x.store.config.maxResults →
      x.store.config.maxResults ≤ wordMax →
        x.Returns [c] size sort (isFound ·.document) ∧
        (x.Returns [c] size sort (f.liesIn ·.document) ↔ ∀ p ∈ x.snapshot.places, ∀ pt,
          p.document.point? f.fields = some pt → a.contains pt = true →
            a.boundingBox.Admits pt)) ∧
    (a.boundingBox.maxLon.isNaN = false → ∀ d pt, isFound d = true →
      d.point? f.fields = some pt → GeoPoint.checked pt.latitude pt.longitude = .ok pt) := by
  intro f isFound
  have hbuild : x.store.scope.build [c] = .ok ⟨none, some f⟩ :=
    SearchScope.build_of_area harea (h.spatialFilter_eq hP hgeo a)
  have hpoint : ∀ p ∈ x.snapshot.places, ∃ r, x.store.IsEntryOf r p.entry ∧
      p.entry.HasPoint f.fields (P.point? r) := fun p hp =>
    h.exists_hasPoint_of_run hP hgeo g ids calls (hsees ▸ hp)
  have hselects : ∀ p ∈ x.snapshot.places,
      QueryDescriptor.selects ⟨none, some f⟩ p = isFound p.document := by
    intro p hp
    obtain ⟨r, -, hr⟩ := hpoint p hp
    exact hr.selects_eq rfl a
  refine ⟨hbuild, fun p hp => ?_, ?_, fun size hdecodes hsize hcount hword => ?_,
    fun hnumber d pt hfound hpt => ?_⟩
  · obtain ⟨r, hr, hhas⟩ := hpoint p hp
    exact ⟨r, hr, hhas.point?_document⟩
  · have hperm : (x.snapshot.ordering f.query (some f) keys).Perm
        ((x.snapshot.places.filter (QueryDescriptor.selects ⟨none, some f⟩)).map
          (QueryDescriptor.candidate ⟨none, some f⟩)) :=
      Snapshot.ordering_perm (d := ⟨none, some f⟩) rfl
    rw [List.filter_congr hselects] at hperm
    have hdocuments := hperm.map Candidate.document
    rw [List.map_map] at hdocuments
    rw [List.filter_map]
    exact hdocuments
  · have hfound : x.Returns [c] size sort (isFound ·.document) :=
      (returns_of_selects_iff hdecodes hbuild hsort (q := f.query) rfl hsize hcount hword
        fun p => Iff.rfl).congr fun p hp => by rw [hselects p hp]
    exact ⟨hfound, Returns.circle_iff (f := f) hfound⟩
  · exact SearchArea.checked_of_admits hnumber
      ((SpatialFilter.any_finds_iff (f := f).mp hfound).2 pt hpt)

/-! ### Shops -/

/-- The place of shops. -/
def shopLocation : Property Shop :=
  Shop.description.properties.get ⟨6, by decide⟩

/-- A circle of a few millimetres. -/
def nearArea : SearchArea :=
  ⟨.origin, 6.1e-06, by decide +kernel⟩

/-- A clause for the circle, which has its say although it must not match. -/
def nearClause : Clause :=
  { property := "", kind := .inArea nearArea, occur := .mustNot }

/-- A point on the circle, which is just outside of the box. -/
def edgePoint : GeoPoint := ⟨0, 5.479723233129081e-08⟩

/-- Of a shop in the middle of the circle, one on its edge and one outside the first is returned. -/
theorem returns_area_of_run_nearShops :
    let rs := [shopAt "a" 1 .origin, shopAt "b" 2 edgePoint, shopAt "c" 3 ⟨0, 1e-06⟩]
    let x := ofShops rs
    (x.Returns [nearClause] 1 [] fun p =>
      (p.document.point? (.ofProperty "location")).any nearArea.finds = true) ∧
    (x.allHits [nearClause] 1 []).toOption.map (List.map (·.record.id.text)) = some ["a"] := by
  intro rs x
  have hdecodes : x.Decodes := by decide +kernel
  have hfields : x.store.IsBuiltFor Shop.description := Store.IsMadeFor.isMadeFor_shops.toIsBuiltFor
  have hsort : x.store.scope.sortKeys [] = .ok [] := rfl
  obtain ⟨-, -, -, hreturns, -⟩ := returns_area_of_run (x := x) hfields (P := shopLocation)
    (List.get_mem _ _) rfl (.numbered "s") 0 [.operation (.saveBatch rs)] rfl (c := nearClause) rfl
    hsort
  exact ⟨(hreturns 1 hdecodes Nat.one_pos (by decide +kernel) (by decide +kernel)).1,
    by decide +kernel⟩

/-- **A point of a circle that is not found.** Both the center and the point have usual coordinates,
and the great circle between them is not longer than the radius; the box is narrower by the last
bit of a longitude, and the search does not return the circle. -/
theorem not_returns_near_circle :
    let x := ofShops [shopAt "b" 2 edgePoint]
    let f : SpatialFilter := ⟨nearArea, .ofProperty "location"⟩
    GeoPoint.checked nearArea.center.latitude nearArea.center.longitude = .ok nearArea.center ∧
      GeoPoint.checked edgePoint.latitude edgePoint.longitude = .ok edgePoint ∧
      nearArea.contains edgePoint = true ∧ ¬ nearArea.boundingBox.Admits edgePoint ∧
      x.Decodes ∧ x.count ≤ x.store.config.maxResults ∧ x.store.config.maxResults ≤ wordMax ∧
      x.store.scope.build [nearClause] = .ok ⟨none, some f⟩ ∧
      ¬ x.Returns [nearClause] 20 [] (fun p => f.liesIn p.document = true) := by
  intro x f
  refine ⟨if_neg (by decide +kernel), if_neg (by decide +kernel), by decide +kernel,
    by decide +kernel, by decide +kernel, by decide +kernel, by decide +kernel, rfl,
    fun hcircle => ?_⟩
  have hlies : ∃ p ∈ x.snapshot.places, f.liesIn p.document = true := by decide +kernel
  have hhits : x.allHits [nearClause] 20 [] = .ok [] := by
    have hnone : (x.allHits [nearClause] 20 []).toOption.map List.length = some 0 := by
      decide +kernel
    cases h : x.allHits [nearClause] 20 [] with
    | error e => rw [h] at hnone; cases hnone
    | ok hits =>
      rw [h] at hnone
      rw [List.eq_nil_of_length_eq_zero (Option.some.inj hnone)]
  -- what is returned is nothing, so nothing lies in the circle if that is what is returned
  have hnothing : x.Returns [nearClause] 20 [] fun _ => False :=
    ⟨⟨none, some f⟩, [], [], rfl, by simp [pure, Except.pure], hhits, .nil⟩
  obtain ⟨p, hp, hliesIn⟩ := hlies
  exact hnothing.of_imp hcircle (fun _ _ => False.elim) p hp hliesIn

end Searcher

end Catalog
