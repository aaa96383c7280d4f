import Catalog.Sample.Clash
import Catalog.Schema.Binding
import Mathlib.Data.List.Nodup

/-!
# Bindings that go together

Bindings are resolved one by one, and each is held against those before it: what is searched by
area is a point and the only one, there is one identity at most, and no name is taken twice. Said
of all bindings at once, this is just when the descriptions of a record type are resolved.

## Main definitions

* `Binding.Fits`: a binding that may be added to those before it
* `Compatible`, `Resolvable`: bindings that go together, one by one and as a whole

## Main results

* `conflict?_eq_none_iff`, `extendBindings_eq_ok_iff`: what one step of resolving asks for
* `resolveBindings_eq_ok_iff`: descriptions are resolved just if their bindings go together
-/

namespace Catalog

/-! ### One binding after the other -/

/-- Names are taken one after the other just if they differ and none was taken before. -/
theorem firstTaken?_eq_none_iff {taken names : List String} :
    firstTaken? taken names = none ↔ names.Nodup ∧ ∀ n ∈ names, n ∉ taken := by
  induction names generalizing taken with
  | nil => simp [firstTaken?]
  | cons n names ih =>
    rw [firstTaken?]
    by_cases hn : n ∈ taken
    · rw [if_pos (by simpa using hn)]
      exact iff_of_false nofun fun h => h.2 n (List.mem_cons_self ..) hn
    · rw [if_neg (by simpa using hn), ih, List.nodup_cons, List.forall_mem_cons]
      constructor
      · rintro ⟨hnodup, hfree⟩
        refine ⟨⟨fun hmem => hfree n hmem (List.mem_cons_self ..), hnodup⟩, hn, fun m hm => ?_⟩
        exact fun htaken => hfree m hm (List.mem_cons_of_mem _ htaken)
      · rintro ⟨⟨hmem, hnodup⟩, -, hfree⟩
        refine ⟨hnodup, fun m hm htaken => ?_⟩
        rcases List.mem_cons.mp htaken with rfl | htaken
        · exact hmem hm
        · exact hfree m hm htaken

/-- A binding that goes together with those before it. -/
structure Binding.Fits (before : List Binding) (b : Binding) : Prop where
  /-- What is searched by area is a point. -/
  kind : b.isGeo = true → b.kind = .geo
  /-- Nothing before is searched by area as well. -/
  geo : b.isGeo = true → ∀ a ∈ before, a.isGeo = false
  /-- Nothing before is an identity as well. -/
  identity : b.isIdentity = true → ∀ a ∈ before, a.isIdentity = false
  /-- Its own names are different. -/
  names : b.names.Nodup
  /-- None of them has been taken. -/
  free : ∀ n ∈ b.names, n ∉ before.flatMap Binding.names

/-- A search that is made only for some bindings finds nothing. -/
theorem find?_if_eq_none_iff {c : Bool} {p : Binding → Bool} {before : List Binding} :
    (if c then before.find? p else none) = none ↔ (c = true → ∀ a ∈ before, p a = false) := by
  cases c with
  | true => simp
  | false => simp

theorem conflict?_eq_none_iff (record : String) {before : List Binding} {b : Binding} :
    conflict? record before b = none ↔ b.Fits before := by
  have hkind : (b.isGeo && b.kind != .geo) = true ↔ ¬ (b.isGeo = true → b.kind = .geo) := by
    simp
  unfold conflict?
  split
  · next h => exact iff_of_false nofun fun hfits => hkind.mp h hfits.kind
  · next h =>
    have hgeoKind := not_not.mp fun hnot => h (hkind.mpr hnot)
    split
    · next first hfirst =>
      refine iff_of_false nofun fun hfits => ?_
      rw [find?_if_eq_none_iff.mpr hfits.geo] at hfirst
      cases hfirst
    · next hgeo =>
      split
      · next first hfirst =>
        refine iff_of_false nofun fun hfits => ?_
        rw [find?_if_eq_none_iff.mpr hfits.identity] at hfirst
        cases hfirst
      · next hidentity =>
        rw [Option.map_eq_none_iff, firstTaken?_eq_none_iff]
        rw [find?_if_eq_none_iff] at hgeo hidentity
        exact ⟨fun h => ⟨hgeoKind, hgeo, hidentity, h.1, h.2⟩, fun h => ⟨h.names, h.free⟩⟩

/-- **One step of resolving**: the binding of a description is added if it fits. -/
theorem extendBindings_eq_ok_iff {record : String} {before after : List Binding} {d : Descriptor} :
    extendBindings record before d = .ok after ↔
      after = before ++ d.binding?.toList ∧ ∀ b ∈ d.binding?, b.Fits before := by
  unfold extendBindings
  cases hb : d.binding? with
  | none => simp [eq_comm]
  | some b =>
    by_cases hfits : b.Fits before
    · simp [(conflict?_eq_none_iff record).mpr hfits, hfits, eq_comm]
    · obtain ⟨e, he⟩ := Option.ne_none_iff_exists'.mp (mt (conflict?_eq_none_iff record).mp hfits)
      simp [he, hfits]

/-! ### All bindings -/

/-- Bindings of which each fits those before it. -/
structure Compatible (bindings : List Binding) : Prop where
  kind : ∀ b ∈ bindings, b.isGeo = true → b.kind = .geo
  geo : bindings.Pairwise fun a b => b.isGeo = true → a.isGeo = false
  identity : bindings.Pairwise fun a b => b.isIdentity = true → a.isIdentity = false
  names : (bindings.flatMap Binding.names).Nodup

theorem compatible_nil : Compatible [] :=
  ⟨nofun, .nil, .nil, .nil⟩

theorem compatible_append_singleton {before : List Binding} {b : Binding} :
    Compatible (before ++ [b]) ↔ Compatible before ∧ b.Fits before := by
  have hnames : ((before ++ [b]).flatMap Binding.names).Nodup ↔
      (before.flatMap Binding.names).Nodup ∧ b.names.Nodup ∧
        ∀ n ∈ b.names, n ∉ before.flatMap Binding.names := by
    rw [List.flatMap_append, List.flatMap_singleton, List.nodup_append', List.disjoint_right]
  constructor
  · intro h
    obtain ⟨hbefore, hown, hfree⟩ := hnames.mp h.names
    obtain ⟨hkind, hkind'⟩ := List.forall_mem_append.mp h.kind
    obtain ⟨hgeo, -, hgeo'⟩ := List.pairwise_append.mp h.geo
    obtain ⟨hidentity, -, hidentity'⟩ := List.pairwise_append.mp h.identity
    have hlast : b ∈ [b] := List.mem_singleton_self b
    exact ⟨⟨hkind, hgeo, hidentity, hbefore⟩, hkind' b hlast,
      fun hb a ha => hgeo' a ha b hlast hb, fun hb a ha => hidentity' a ha b hlast hb, hown, hfree⟩
  · rintro ⟨h, hfits⟩
    have hlast : ∀ {p : Binding → Prop}, p b → ∀ c ∈ [b], p c := fun hb c hc =>
      List.mem_singleton.mp hc ▸ hb
    exact ⟨List.forall_mem_append.mpr ⟨h.kind, hlast hfits.kind⟩,
      List.pairwise_append.mpr ⟨h.geo, List.pairwise_singleton _ _, fun a ha =>
        hlast fun hb => hfits.geo hb a ha⟩,
      List.pairwise_append.mpr ⟨h.identity, List.pairwise_singleton _ _, fun a ha =>
        hlast fun hb => hfits.identity hb a ha⟩,
      hnames.mpr ⟨h.names, hfits.names, hfits.free⟩⟩

theorem Compatible.of_append {a b : List Binding} (h : Compatible (a ++ b)) : Compatible a where
  kind c hc := h.kind c (List.mem_append_left b hc)
  geo := (List.pairwise_append.mp h.geo).1
  identity := (List.pairwise_append.mp h.identity).1
  names := by
    have hnames := h.names
    rw [List.flatMap_append] at hnames
    exact (List.nodup_append'.mp hnames).1

/-- The bindings of descriptions are added to those before just if all go together. -/
theorem foldlM_extendBindings_eq_ok_iff {record : String} {descriptors : List Descriptor}
    {before after : List Binding} (hbefore : Compatible before) :
    descriptors.foldlM (extendBindings record) before = .ok after ↔
      after = before ++ descriptors.filterMap Descriptor.binding? ∧ Compatible after := by
  induction descriptors generalizing before with
  | nil =>
    rw [List.foldlM_nil, List.filterMap_nil, List.append_nil]
    constructor
    · rintro ⟨⟩
      exact ⟨rfl, hbefore⟩
    · rintro ⟨rfl, -⟩
      rfl
  | cons d descriptors ih =>
    have hsteps : (d :: descriptors).filterMap Descriptor.binding? =
        d.binding?.toList ++ descriptors.filterMap Descriptor.binding? := by
      cases hb : d.binding? with
      | none => rw [List.filterMap_cons_none hb]; rfl
      | some b => rw [List.filterMap_cons_some hb]; rfl
    rw [List.foldlM_cons, hsteps, ← List.append_assoc]
    cases hstep : extendBindings record before d with
    | ok next =>
      obtain ⟨rfl, hfits⟩ := extendBindings_eq_ok_iff.mp hstep
      refine ih ?_
      cases hb : d.binding? with
      | none => rwa [Option.toList_none, List.append_nil]
      | some b => exact compatible_append_singleton.mpr ⟨hbefore, hfits b hb⟩
    | error e =>
      refine iff_of_false nofun ?_
      -- The binding that does not fit would have to fit in the end.
      rintro ⟨rfl, hafter⟩
      have hnext : extendBindings record before d = .ok (before ++ d.binding?.toList) := by
        refine extendBindings_eq_ok_iff.mpr ⟨rfl, fun b hb => ?_⟩
        have hcompatible := hafter.of_append
        rw [Option.mem_def.mp hb, Option.toList_some] at hcompatible
        exact (compatible_append_singleton.mp hcompatible).2
      rw [hstep] at hnext
      cases hnext

/-- The names that stand before those of bindings without an identity. -/
def implicitNames (bindings : List Binding) : List String :=
  if bindings.any Binding.isIdentity then [] else [implicitIdField]

/-- Bindings that go together, and leave the field of an implicit identity free if there is one. -/
structure Resolvable (bindings : List Binding) : Prop extends Compatible bindings where
  implicit : ∀ n ∈ implicitNames bindings, n ∉ bindings.flatMap Binding.names

/-- **Descriptions are resolved just if their bindings go together.** -/
theorem resolveBindings_eq_ok_iff {record : String} {descriptors : List Descriptor}
    {bindings : List Binding} :
    resolveBindings record descriptors = .ok bindings ↔
      bindings = descriptors.filterMap Descriptor.binding? ∧ Resolvable bindings := by
  have himplicit : ∀ bs : List Binding, (!bs.any Binding.isIdentity &&
      (bs.flatMap Binding.names).contains implicitIdField) = true ↔
        ¬ ∀ n ∈ implicitNames bs, n ∉ bs.flatMap Binding.names := by
    intro bs
    unfold implicitNames
    cases bs.any Binding.isIdentity <;> simp
  unfold resolveBindings
  cases hfold : descriptors.foldlM (extendBindings record) [] with
  | error e =>
    refine iff_of_false nofun ?_
    rintro ⟨rfl, h⟩
    have hok : descriptors.foldlM (extendBindings record) [] = .ok _ :=
      (foldlM_extendBindings_eq_ok_iff compatible_nil).mpr
        ⟨(List.nil_append _).symm, h.toCompatible⟩
    rw [hfold] at hok
    cases hok
  | ok resolved =>
    obtain ⟨rfl, h⟩ := (foldlM_extendBindings_eq_ok_iff compatible_nil).mp hfold
    rw [List.nil_append] at h ⊢
    simp only [bind, Except.bind]
    split
    · next htaken =>
      refine iff_of_false nofun ?_
      rintro ⟨rfl, hresolvable⟩
      exact (himplicit _).mp htaken hresolvable.implicit
    · next hfree =>
      have hfree := not_not.mp fun hnot => hfree ((himplicit _).mpr hnot)
      constructor
      · rintro ⟨⟩
        exact ⟨rfl, h, hfree⟩
      · rintro ⟨rfl, -⟩
        rfl

open Clash in
/-- Each reason that bindings do not go together, by a record type that has no schema for it. -/
example :
    let resolved {ρ : Type} (R : RecordType ρ) := (Schema.build R).map Schema.bindings
    resolved twoGeo = .error (.duplicateGeo "TwoGeo" "a" "b") ∧
      resolved twoId = .error (.duplicateIdentity "TwoId" "a" "b") ∧
      resolved dupField = .error (.duplicateField "DupField" "a") ∧
      resolved geoOnText = .error (.geoKind "GeoOnText" "place" .text) ∧
      resolved takesImplicit = .error (.duplicateField "TakesImplicit" implicitIdField) ∧
      resolved nothing = .ok [] := by
  decide

end Catalog
