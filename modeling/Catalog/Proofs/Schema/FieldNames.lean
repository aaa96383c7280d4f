import Catalog.Proofs.Record.Sample
import Mathlib.Data.List.Pairwise
import Mathlib.Data.List.Perm.Basic

/-!
# The names of the fields of an index

The names that resolving holds against each other are those of a binding itself, of its words and of
its point. An area search keeps two more fields, for the longitude and the latitude of the point,
and their names are not looked at. So the fields of the index have different names just if no
property is kept under one of those two.

## Main definitions

* `Binding.coordinateNames`: the names that are not looked at

## Main results

* `Resolvable.nodup_names`: the names that are looked at are different
* `Resolvable.nodup_storeFieldsOf_iff`: when the fields of the index have different names
* `nodup_of_resolveBindings`: both, for descriptions that are resolved
-/

namespace Catalog

/-- The names of the fields for the longitude and the latitude. -/
def Binding.coordinateNames (b : Binding) : List String :=
  match b.spatial? with
  | some f => [f.x, f.y]
  | none => []

theorem Binding.fieldNames_eq_append (b : Binding) :
    b.fieldNames = b.names ++ b.coordinateNames := by
  rw [fieldNames_eq, names, coordinateNames]
  cases b.spatial? with
  | none => simp
  | some f => simp

theorem Binding.coordinateNames_of_not_isGeo {b : Binding} (h : b.isGeo = false) :
    b.coordinateNames = [] := by
  have hrole : b.role ≠ .geo := beq_eq_false_iff_ne.mp h
  rw [coordinateNames, spatial?, if_neg hrole]

theorem Binding.coordinateNames_of_isGeo {b : Binding} (h : b.isGeo = true) :
    b.coordinateNames = [(SpatialFields.ofProperty b.property).x,
      (SpatialFields.ofProperty b.property).y] := by
  have hrole : b.role = .geo := beq_iff_eq.mp h
  rw [coordinateNames, spatial?, if_pos hrole]

/-! ### What the names end and begin with -/

theorem getLast?_toList_append (s : String) {t : String} (ht : t.toList ≠ []) :
    (s ++ t).toList.getLast? = t.toList.getLast? := by
  rw [String.toList_append, List.getLast?_append_of_ne_nil _ ht]

/-- A coordinate is kept under the name of its point with an ending. -/
theorem exists_of_mem_coordinateNames {b : Binding} {n : String} (h : n ∈ b.coordinateNames) :
    ∃ ending, (ending = "__x" ∨ ending = "__y") ∧
      n = (SpatialFields.ofProperty b.property).point ++ ending := by
  cases hgeo : b.isGeo with
  | false => simp [Binding.coordinateNames_of_not_isGeo hgeo] at h
  | true =>
    rw [Binding.coordinateNames_of_isGeo hgeo, List.mem_pair] at h
    rcases h with rfl | rfl
    · exact ⟨_, .inl rfl, rfl⟩
    · exact ⟨_, .inr rfl, rfl⟩

theorem getLast?_of_mem_coordinateNames {b : Binding} {n : String} (h : n ∈ b.coordinateNames) :
    n.toList.getLast? = some 'x' ∨ n.toList.getLast? = some 'y' := by
  obtain ⟨ending, rfl | rfl, rfl⟩ := exists_of_mem_coordinateNames h
  · exact .inl (getLast?_toList_append _ (by decide))
  · exact .inr (getLast?_toList_append _ (by decide))

theorem ne_analysis_of_mem_coordinateNames {b : Binding} {n : String}
    (h : n ∈ b.coordinateNames) (field : String) : n ≠ field ++ analysisSuffix := by
  rintro rfl
  have hlast := getLast?_of_mem_coordinateNames h
  rw [getLast?_toList_append field (by decide)] at hlast
  exact absurd hlast (by decide)

/-- A coordinate is kept under a longer name than its point. -/
theorem length_lt_of_mem_coordinateNames {b : Binding} {n : String} (h : n ∈ b.coordinateNames) :
    (SpatialFields.ofProperty b.property).point.length < n.length := by
  obtain ⟨ending, hending, rfl⟩ := exists_of_mem_coordinateNames h
  have hlength : 0 < ending.length := by
    rcases hending with rfl | rfl <;> decide
  rw [String.length_append]
  omega

theorem ne_property_of_mem_coordinateNames {b : Binding} {n : String}
    (h : n ∈ b.coordinateNames) : n ≠ b.property := by
  rintro rfl
  have hlength := length_lt_of_mem_coordinateNames h
  rw [SpatialFields.ofProperty, String.length_append] at hlength
  omega

theorem ne_implicit_of_mem_coordinateNames {b : Binding} {n : String}
    (h : n ∈ b.coordinateNames) : n ≠ implicitIdField := by
  rintro rfl
  have hlast := getLast?_of_mem_coordinateNames h
  exact absurd hlast (by decide)

/-! ### What may share a name -/

theorem Binding.nodup_coordinateNames (b : Binding) : b.coordinateNames.Nodup := by
  cases hgeo : b.isGeo with
  | false =>
    rw [coordinateNames_of_not_isGeo hgeo]
    exact List.nodup_nil
  | true =>
    rw [coordinateNames_of_isGeo hgeo, List.nodup_cons, List.mem_singleton]
    refine ⟨fun heq => ?_, List.nodup_singleton _⟩
    have hsuffix := congrArg String.toList heq
    rw [SpatialFields.x, SpatialFields.y, String.toList_append, String.toList_append] at hsuffix
    exact absurd (List.append_cancel_left hsuffix) (by decide)

/-- Where no other binding is searched by area, a coordinate can share its name with the field of a
property only. -/
theorem Binding.field_eq_of_mem_names {a b : Binding} {n : String}
    (hone : a.isGeo = true → b.isGeo = true → a = b) (hn : n ∈ a.coordinateNames)
    (hn' : n ∈ b.names) : b.field = n := by
  rw [names, List.mem_append, List.mem_cons] at hn'
  rcases hn' with (rfl | hanalysis) | hpoint
  · rfl
  · -- The names of words end otherwise.
    rw [Option.mem_toList, analysisField?] at hanalysis
    split at hanalysis
    · cases hanalysis
      exact absurd rfl (ne_analysis_of_mem_coordinateNames hn _)
    · cases hanalysis
  · -- The point is that of the same binding.
    cases hgeo : b.isGeo with
    | false =>
      have hrole : b.role ≠ .geo := beq_eq_false_iff_ne.mp hgeo
      simp [spatial?, hrole] at hpoint
    | true =>
      have hrole : b.role = .geo := beq_iff_eq.mp hgeo
      have hgeo' : a.isGeo = true := by
        by_contra hnot
        simp [coordinateNames_of_not_isGeo (Bool.eq_false_iff.mpr hnot)] at hn
      obtain rfl := hone hgeo' hgeo
      simp only [spatial?, if_pos hrole, Option.map_some, Option.toList_some,
        List.mem_singleton] at hpoint
      have hlength := length_lt_of_mem_coordinateNames hn
      rw [hpoint] at hlength
      exact absurd hlength (lt_irrefl _)

/-! ### When the names are different -/

/-- There is one binding at most that is searched by area. -/
theorem Compatible.eq_of_isGeo {bindings : List Binding} (h : Compatible bindings) {a b : Binding}
    (ha : a ∈ bindings) (hb : b ∈ bindings) (hgeo : a.isGeo = true) (hgeo' : b.isGeo = true) :
    a = b := by
  have _ : Std.Symm fun a b : Binding => b.isGeo = true → a.isGeo = false :=
    ⟨fun a b hab hgeo => Bool.eq_false_iff.mpr fun hgeo' => by simp [hab hgeo'] at hgeo⟩
  by_contra hne
  have hnot := h.geo.forall ha hb hne hgeo'
  rw [hgeo] at hnot
  cases hnot

namespace Resolvable

variable {bindings : List Binding}

/-- The names that resolving looks at are different, that of an implicit identity included. -/
theorem nodup_names (h : Resolvable bindings) :
    (implicitNames bindings ++ bindings.flatMap Binding.names).Nodup := by
  refine List.nodup_append'.mpr ⟨?_, h.names, fun n hn => h.implicit n hn⟩
  unfold implicitNames
  split
  · exact List.nodup_nil
  · exact List.nodup_singleton _

theorem nodup_coordinateNames (h : Resolvable bindings) :
    (bindings.flatMap Binding.coordinateNames).Nodup := by
  refine List.nodup_flatMap.mpr ⟨fun b _ => b.nodup_coordinateNames,
    h.geo.imp fun {a b} hone n ha hb => ?_⟩
  cases hgeo : b.isGeo with
  | false => simp [Binding.coordinateNames_of_not_isGeo hgeo] at hb
  | true => simp [Binding.coordinateNames_of_not_isGeo (hone hgeo)] at ha

/-- The field of an implicit identity does not share its name with any other. -/
theorem nodup_storeFieldsOf_iff_flatMap (h : Resolvable bindings) :
    ((storeFieldsOf bindings).map StoreField.name).Nodup ↔
      (bindings.flatMap Binding.fieldNames).Nodup := by
  have himplicit : (implicitNames bindings).Disjoint (bindings.flatMap Binding.fieldNames) := by
    intro n hn hmem
    obtain ⟨b, hb, hname⟩ := List.mem_flatMap.mp hmem
    rw [Binding.fieldNames_eq_append, List.mem_append] at hname
    rcases hname with hname | hname
    · exact h.implicit n hn (List.mem_flatMap.mpr ⟨b, hb, hname⟩)
    · unfold implicitNames at hn
      split at hn
      · cases hn
      · exact ne_implicit_of_mem_coordinateNames hname (List.mem_singleton.mp hn)
  rw [map_name_storeFieldsOf, ← implicitNames, List.nodup_append']
  exact ⟨fun hall => hall.2.1, fun hnodup =>
    ⟨(List.nodup_append'.mp h.nodup_names).1, hnodup, himplicit⟩⟩

/-- **The fields of an index have different names just if no property is kept under the name of a
coordinate.** -/
theorem nodup_storeFieldsOf_iff (h : Resolvable bindings) :
    ((storeFieldsOf bindings).map StoreField.name).Nodup ↔
      ∀ a ∈ bindings, ∀ n ∈ a.coordinateNames, ∀ b ∈ bindings, b.field ≠ n := by
  have hsplit : (bindings.flatMap Binding.fieldNames).Perm
      (bindings.flatMap Binding.names ++ bindings.flatMap Binding.coordinateNames) := by
    rw [List.flatMap_congr fun b _ => b.fieldNames_eq_append]
    exact (List.flatMap_append_perm _ _ _).symm
  rw [h.nodup_storeFieldsOf_iff_flatMap, hsplit.nodup_iff, List.nodup_append']
  constructor
  · rintro ⟨-, -, hdisjoint⟩ a ha n hn b hb rfl
    refine hdisjoint (List.mem_flatMap.mpr ⟨b, hb, ?_⟩) (List.mem_flatMap.mpr ⟨a, ha, hn⟩)
    exact List.mem_append_left _ (List.mem_cons_self ..)
  · refine fun hfields => ⟨h.names, h.nodup_coordinateNames, fun n hn hn' => ?_⟩
    obtain ⟨a, ha, hcoordinate⟩ := List.mem_flatMap.mp hn'
    obtain ⟨b, hb, hname⟩ := List.mem_flatMap.mp hn
    exact hfields a ha n hcoordinate b hb
      (Binding.field_eq_of_mem_names (h.eq_of_isGeo ha hb) hcoordinate hname)

end Resolvable

/-! ### Descriptions that are resolved -/

/-- What is searched by area is kept under the name of its property. -/
theorem Descriptor.field_of_isGeo {d : Descriptor} {b : Binding} (h : d.binding? = some b)
    (hgeo : b.isGeo = true) : b.field = b.property := by
  unfold Descriptor.binding? at h
  split at h <;> cases h
  · rfl
  · cases hgeo
  · cases hgeo
  · rfl

/-- The fields of one description have different names. -/
theorem Descriptor.nodup_fieldNames {d : Descriptor} {b : Binding} (h : d.binding? = some b)
    (hnames : b.names.Nodup) : b.fieldNames.Nodup := by
  rw [Binding.fieldNames_eq_append, List.nodup_append']
  refine ⟨hnames, b.nodup_coordinateNames, fun n hn hn' => ?_⟩
  have hfield := Binding.field_eq_of_mem_names (fun _ _ => rfl) hn' hn
  cases hgeo : b.isGeo with
  | false => simp [Binding.coordinateNames_of_not_isGeo hgeo] at hn'
  | true =>
    rw [field_of_isGeo h hgeo] at hfield
    exact ne_property_of_mem_coordinateNames hn' hfield.symm

/-- **Which names of resolved bindings are different.** Those that resolving looks at always are;
the fields of the index are just if no property is kept under the name of a coordinate, and just if
no two bindings have a field in common. -/
theorem nodup_of_resolveBindings {record : String} {descriptors : List Descriptor}
    {bindings : List Binding} (h : resolveBindings record descriptors = .ok bindings) :
    (implicitNames bindings ++ bindings.flatMap Binding.names).Nodup ∧
      (((storeFieldsOf bindings).map StoreField.name).Nodup ↔
        ∀ a ∈ bindings, ∀ f, a.spatial? = some f → ∀ b ∈ bindings, b.field ≠ f.x ∧ b.field ≠ f.y) ∧
      (((storeFieldsOf bindings).map StoreField.name).Nodup ↔
        bindings.Pairwise fun a b => a.fieldNames.Disjoint b.fieldNames) := by
  obtain ⟨heq, hresolvable⟩ := resolveBindings_eq_ok_iff.mp h
  have hown : ∀ b ∈ bindings, b.fieldNames.Nodup := by
    intro b hb
    have hmem := hb
    rw [heq] at hmem
    obtain ⟨d, -, hd⟩ := List.mem_filterMap.mp hmem
    exact d.nodup_fieldNames hd ((List.nodup_flatMap.mp hresolvable.names).1 b hb)
  refine ⟨hresolvable.nodup_names, hresolvable.nodup_storeFieldsOf_iff.trans ?_, ?_⟩
  · refine forall_congr' fun a => forall_congr' fun _ => ?_
    cases hf : a.spatial? with
    | none => simp [Binding.coordinateNames, hf]
    | some f => simp [Binding.coordinateNames, hf, forall_and]
  · rw [hresolvable.nodup_storeFieldsOf_iff_flatMap, List.nodup_flatMap]
    exact and_iff_right hown

/-- A shop has one field under each name. -/
theorem nodup_of_resolveBindings_shop :
    resolveBindings "Shop" (Shop.recordType.declarations.map Declaration.descriptor) =
        .ok Shop.schema.bindings ∧
      (implicitNames Shop.schema.bindings ++ Shop.schema.bindings.flatMap Binding.names).Nodup ∧
      Shop.schema.bindings.Pairwise fun a b => a.fieldNames.Disjoint b.fieldNames := by
  have h : resolveBindings "Shop" (Shop.recordType.declarations.map Declaration.descriptor) =
      .ok Shop.schema.bindings := rfl
  obtain ⟨hnames, -, hdisjoint⟩ := nodup_of_resolveBindings h
  exact ⟨h, hnames, hdisjoint.mp Shop.nodup_storeFields⟩

/-- A place, and a number that is kept under the name of its longitude. -/
def clashingDescriptors : List Descriptor :=
  [⟨"a", .geo, .geo⟩, ⟨"pvs_a__x", .unmarked, .float⟩]

/-- A property that is kept under the name of a longitude is let pass, and its index has two fields
of that name. -/
theorem not_nodup_clashingDescriptors :
    ∃ bindings, resolveBindings "R" clashingDescriptors = .ok bindings ∧
      ¬ ((storeFieldsOf bindings).map StoreField.name).Nodup :=
  ⟨_, rfl, by decide⟩

end Catalog
