import Catalog.Proofs.Schema.Resolution
import Mathlib.Data.List.Forall2

/-!
# Descriptions that go together

Which descriptions are resolved can be said of the descriptions alone: those that are left out count
for nothing, and the others have to agree on what is searched by area, on the identity and on the
names that their markers ask for. Each of them then has its binding, in the same order.

## Main definitions

* `Descriptor.isKept`, `Descriptor.names`: what a marker asks for
* `GoTogether`: descriptions that go together
* `Binding.Follows`: the binding that a description asks for

## Main results

* `Binding.follows_iff`: a description that is kept has one binding, the others have none
* `resolveBindings_iff_goTogether`: which descriptions are resolved, and what they are bound to
-/

namespace Catalog

/-- Whether a property is kept at all. -/
def Descriptor.isKept (d : Descriptor) : Bool :=
  d.marker != .noIndex

/-- Whether a property is marked as the one that is searched by area. -/
def Descriptor.isGeo (d : Descriptor) : Bool :=
  d.marker == .geo

/-- Whether a property is declared as the identity. -/
def Descriptor.isIdentity (d : Descriptor) : Bool :=
  d.kind == .identity

/-- The names that the marker of a description asks for. -/
def Descriptor.names (d : Descriptor) : List String :=
  match d.marker with
  | .unmarked => [d.property]
  | .analyzed field => [field.getD d.property, field.getD d.property ++ "-analysis"]
  | .stored field => [field.getD d.property]
  | .geo => [d.property, "pvs_" ++ d.property]
  | .noIndex => []

/-- Descriptions that go together. -/
structure GoTogether (kept : List Descriptor) : Prop where
  /-- What is searched by area is a point. -/
  kind : ∀ d ∈ kept, d.marker = .geo → d.kind = .geo
  /-- One property at most is searched by area. -/
  geo : kept.countP Descriptor.isGeo ≤ 1
  /-- One property at most is the identity. -/
  identity : kept.countP Descriptor.isIdentity ≤ 1
  /-- No name is asked for twice. -/
  names : (kept.flatMap Descriptor.names).Nodup
  /-- The name of the implicit identity is left to it, unless there is another identity. -/
  implicit : "entityId" ∈ kept.flatMap Descriptor.names → ∃ d ∈ kept, d.kind = .identity

/-- A binding has what the marker of a description gives it. -/
def Binding.Follows (b : Binding) (d : Descriptor) : Prop :=
  b.property = d.property ∧ b.kind = d.kind ∧
    match d.marker with
    | .unmarked => b.field = d.property ∧ b.role = .stored ∧ b.analysisField? = none ∧
        b.spatial?.map SpatialFields.point = none
    | .analyzed field => b.field = field.getD d.property ∧ b.role = .analyzed ∧
        b.analysisField? = some (field.getD d.property ++ "-analysis") ∧
        b.spatial?.map SpatialFields.point = none
    | .stored field => b.field = field.getD d.property ∧ b.role = .stored ∧
        b.analysisField? = none ∧ b.spatial?.map SpatialFields.point = none
    | .geo => b.field = d.property ∧ b.role = .geo ∧ b.analysisField? = none ∧
        b.spatial?.map SpatialFields.point = some ("pvs_" ++ d.property)
    | .noIndex => False

/-! ### The binding of a description -/

/-- A description that is kept has one binding, and the others have none. -/
theorem Binding.follows_iff {d : Descriptor} {b : Binding} :
    b.Follows d ↔ d.binding? = some b := by
  obtain ⟨property, marker, kind⟩ := d
  constructor
  · obtain ⟨property', field, role, kind'⟩ := b
    rintro ⟨hproperty, hkind, hmarker⟩
    cases marker with
    | noIndex => exact hmarker.elim
    | _ =>
      obtain ⟨hfield, hrole, -⟩ := hmarker
      dsimp only at hproperty hkind hfield hrole
      subst hproperty hkind hfield hrole
      rfl
  · intro h
    cases marker with
    | noIndex => cases h
    | _ =>
      cases h
      exact ⟨rfl, rfl, rfl, rfl, rfl, rfl⟩

namespace Binding.Follows

variable {d : Descriptor} {b : Binding}

theorem isGeo_eq (h : b.Follows d) : b.isGeo = d.isGeo := by
  obtain ⟨property, marker, kind⟩ := d
  cases marker <;> cases follows_iff.mp h <;> rfl

theorem isIdentity_eq (h : b.Follows d) : b.isIdentity = d.isIdentity := by
  rw [Binding.isIdentity, Descriptor.isIdentity, h.2.1]

theorem names_eq (h : b.Follows d) : b.names = d.names := by
  obtain ⟨property, marker, kind⟩ := d
  cases marker <;> cases follows_iff.mp h <;> rfl

theorem kind_iff (h : b.Follows d) :
    (b.isGeo = true → b.kind = .geo) ↔ (d.marker = .geo → d.kind = .geo) := by
  rw [h.isGeo_eq, h.2.1, Descriptor.isGeo, beq_iff_eq]

end Binding.Follows

/-! ### All bindings -/

/-- The bindings are those of the descriptions that are kept, in their order. -/
theorem forall₂_follows_iff {descriptors : List Descriptor} {bindings : List Binding} :
    List.Forall₂ (fun d b => b.Follows d) (descriptors.filter Descriptor.isKept) bindings ↔
      bindings = descriptors.filterMap Descriptor.binding? := by
  induction descriptors generalizing bindings with
  | nil => exact List.forall₂_nil_left_iff
  | cons d descriptors ih =>
    cases hb : d.binding? with
    | none =>
      have hleft : d.isKept = false := by
        obtain ⟨property, marker, kind⟩ := d
        cases marker <;> first | rfl | cases hb
      rw [List.filter_cons_of_neg (Bool.eq_false_iff.mp hleft), List.filterMap_cons_none hb, ih]
    | some b =>
      have hkept : d.isKept = true := by
        obtain ⟨property, marker, kind⟩ := d
        cases marker <;> first | rfl | cases hb
      rw [List.filter_cons_of_pos hkept, List.filterMap_cons_some hb, List.forall₂_cons_left_iff]
      constructor
      · rintro ⟨b', bs, hfollows, hbs, rfl⟩
        rw [Option.some.inj (hb.symm.trans (Binding.follows_iff.mp hfollows)), ih.mp hbs]
      · rintro rfl
        exact ⟨b, _, Binding.follows_iff.mpr hb, ih.mpr rfl, rfl⟩

/-- What follows descriptions agrees with them in all that each pair agrees in. -/
theorem map_eq_of_forall₂ {α β γ : Type} {r : α → β → Prop} {f : α → γ} {g : β → γ}
    {as : List α} {bs : List β} (h : List.Forall₂ r as bs) (hfg : ∀ a b, r a b → g b = f a) :
    bs.map g = as.map f := by
  induction h with
  | nil => rfl
  | cons hab _ ih => rw [List.map_cons, List.map_cons, hfg _ _ hab, ih]

/-- Each two exclude one another just if there is one at most. -/
theorem pairwise_iff_countP_le_one {α : Type} {p : α → Bool} {l : List α} :
    l.Pairwise (fun a b => p b = true → p a = false) ↔ l.countP p ≤ 1 := by
  induction l with
  | nil => simp
  | cons a l ih =>
    rw [List.pairwise_cons, ih, List.countP_cons]
    cases ha : p a with
    | false => simp
    | true =>
      have hnone : (∀ b ∈ l, p b = true → true = false) ↔ l.countP p = 0 := by
        simp [List.countP_eq_zero]
      rw [hnone, if_pos rfl]
      omega

/-- The bindings of descriptions go together just if the descriptions do. -/
theorem resolvable_iff_goTogether {kept : List Descriptor} {bindings : List Binding}
    (h : List.Forall₂ (fun d b => b.Follows d) kept bindings) :
    Resolvable bindings ↔ GoTogether kept := by
  have hnames : bindings.flatMap Binding.names = kept.flatMap Descriptor.names := by
    rw [List.flatMap_def, List.flatMap_def, map_eq_of_forall₂ h fun _ _ => Binding.Follows.names_eq]
  have hgeo : bindings.countP Binding.isGeo = kept.countP Descriptor.isGeo := by
    have hmap := map_eq_of_forall₂ h fun _ _ => Binding.Follows.isGeo_eq
    simpa [List.countP_map] using congrArg (List.countP id) hmap
  have hidentities : bindings.map Binding.isIdentity = kept.map Descriptor.isIdentity :=
    map_eq_of_forall₂ h fun _ _ => Binding.Follows.isIdentity_eq
  have hidentity : bindings.countP Binding.isIdentity = kept.countP Descriptor.isIdentity := by
    simpa [List.countP_map] using congrArg (List.countP id) hidentities
  have hkind : (∀ b ∈ bindings, b.isGeo = true → b.kind = .geo) ↔
      ∀ d ∈ kept, d.marker = .geo → d.kind = .geo := by
    have hmap := map_eq_of_forall₂ h fun _ _ hfollows => propext (Binding.Follows.kind_iff hfollows)
    simpa only [List.forall_mem_map, eq_iff_iff] using congrArg (fun l => ∀ p ∈ l, p) hmap
  have himplicit : (∀ n ∈ implicitNames bindings, n ∉ bindings.flatMap Binding.names) ↔
      ("entityId" ∈ kept.flatMap Descriptor.names → ∃ d ∈ kept, d.kind = .identity) := by
    have hany : bindings.any Binding.isIdentity = kept.any Descriptor.isIdentity := by
      simpa [List.any_map] using congrArg (List.any · id) hidentities
    have hexists : kept.any Descriptor.isIdentity = true ↔ ∃ d ∈ kept, d.kind = .identity := by
      simp [Descriptor.isIdentity]
    rw [implicitNames, hany, hnames, ← hexists]
    cases kept.any Descriptor.isIdentity with
    | true => simp
    | false => simp [implicitIdField]
  constructor
  · intro hbindings
    exact ⟨hkind.mp hbindings.kind, hgeo ▸ pairwise_iff_countP_le_one.mp hbindings.geo,
      hidentity ▸ pairwise_iff_countP_le_one.mp hbindings.identity, hnames ▸ hbindings.names,
      himplicit.mp hbindings.implicit⟩
  · intro hkept
    exact ⟨⟨hkind.mpr hkept.kind, pairwise_iff_countP_le_one.mpr (hgeo ▸ hkept.geo),
      pairwise_iff_countP_le_one.mpr (hidentity ▸ hkept.identity), hnames ▸ hkept.names⟩,
      himplicit.mpr hkept.implicit⟩

/-- **Which descriptions are resolved**: just those that go together, where nothing is looked at
that is left out; and each is then bound to what its marker asks for, in their order. -/
theorem resolveBindings_iff_goTogether (record : String) (descriptors : List Descriptor) :
    ((∃ bindings, resolveBindings record descriptors = .ok bindings) ↔
        GoTogether (descriptors.filter Descriptor.isKept)) ∧
      ∀ bindings, resolveBindings record descriptors = .ok bindings ↔
        GoTogether (descriptors.filter Descriptor.isKept) ∧
          List.Forall₂ (fun d b => b.Follows d) (descriptors.filter Descriptor.isKept)
            bindings := by
  have heach : ∀ bindings, resolveBindings record descriptors = .ok bindings ↔
      GoTogether (descriptors.filter Descriptor.isKept) ∧
        List.Forall₂ (fun d b => b.Follows d) (descriptors.filter Descriptor.isKept)
          bindings := by
    intro bindings
    rw [resolveBindings_eq_ok_iff, ← forall₂_follows_iff, and_comm]
    exact and_congr_left resolvable_iff_goTogether
  refine ⟨⟨?_, fun h => ?_⟩, heach⟩
  · rintro ⟨bindings, h⟩
    exact ((heach bindings).mp h).1
  · exact ⟨_, (heach _).mpr ⟨h, forall₂_follows_iff.mpr rfl⟩⟩

end Catalog
