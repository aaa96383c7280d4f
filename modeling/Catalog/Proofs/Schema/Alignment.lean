import Catalog.Proofs.Schema.Descriptors
import Catalog.Sample.Clash

/-!
# Bindings and accessors side by side

The bindings of a schema and its accessors are drawn from the declarations in two ways. Bindings are
resolved from what is said about the properties, passing over those that are left out; accessors are
those of the declarations that are not left out, as far as they have one. What is declared for a
property that is kept has an accessor, so the two agree place by place: each accessor is that of the
declaration that its binding follows, whatever is left out in between.

## Main definitions

* `Declaration.IsMade`: what a record type may declare
* `Column.Follows`: a binding and an accessor of the same declaration
* `Accessor.Spares`, `RecordType.KeepsApart`: properties that do not touch each other
* `IsIndexOf`: the index of the only element of a kind
* `Schema.IsAligned`: a schema whose columns are those of its declarations, place by place

## Main results

* `forall₂_columns`: bindings and accessors that are joined by position belong together
* `Schema.isAligned_of_build`: every schema that is built is aligned
-/

namespace Catalog

variable {ρ : Type}

/-! ### Declarations -/

/-- What a record type may declare: a property with any marker, which has an accessor, or one that
is left out. Properties that are declared with their marker are of the first kind. -/
inductive Declaration.IsMade : Declaration ρ → Prop
  | property {α : Type} [FieldType α] (name : String) (marker : Marker) (get : ρ → α)
      (set : ρ → α → ρ) : IsMade (.property name marker get set)
  | noIndex (name : String) : IsMade (.noIndex name)

/-- A property that is kept has an accessor. -/
theorem Declaration.IsMade.isSome_accessor? {d : Declaration ρ} (h : d.IsMade)
    (hkept : d.descriptor.isKept = true) : d.accessor?.isSome = true := by
  cases h with
  | property name marker get set => rfl
  | noIndex name => cases hkept

/-- The declarations of a record type that are not left out. -/
def RecordType.kept (R : RecordType ρ) : List (Declaration ρ) :=
  R.declarations.filter fun d => d.descriptor.isKept

/-- Binding and accessor of a column are those of the declaration. -/
def Column.Follows (c : Column ρ) (d : Declaration ρ) : Prop :=
  c.binding.Follows d.descriptor ∧ d.accessor? = some c.accessor

/-! ### What does not touch each other -/

/-- Writing by one accessor changes nothing that the other one reads. -/
def Accessor.Spares (a a' : Accessor ρ) : Prop :=
  ∀ r v r', a.write r v = .ok r' → a'.read r' = a'.read r

/-- A component that is not touched by setting another one is read as before. -/
theorem Accessor.spares_ofLens {α β : Type} [FieldType α] [FieldType β] {get : ρ → α}
    {set : ρ → α → ρ} {get' : ρ → β} {set' : ρ → β → ρ} (h : ∀ r a, get' (set r a) = get' r) :
    (Accessor.ofLens get set).Spares (.ofLens get' set') := by
  intro r v r' hwrite
  dsimp only [ofLens] at hwrite
  cases ha : FieldType.ofField (α := α) v with
  | error e =>
    rw [ha] at hwrite
    cases hwrite
  | ok a =>
    rw [ha] at hwrite
    cases hwrite
    exact congrArg FieldType.toField (h r a)

/-- The accessors of distinct properties do not touch each other. -/
def RecordType.KeepsApart (R : RecordType ρ) : Prop :=
  ∀ d ∈ R.declarations, ∀ d' ∈ R.declarations, d.descriptor.property ≠ d'.descriptor.property →
    ∀ a ∈ d.accessor?, ∀ a' ∈ d'.accessor?, a.Spares a'

/-! ### Two lists drawn from one -/

section

variable {α β γ : Type} {as : List α} {bs : List β} {cs : List γ}

/-- Where nothing is passed over, a list is mapped place by place. -/
theorem forall₂_filterMap {f : α → Option β} (h : ∀ a ∈ as, (f a).isSome = true) :
    List.Forall₂ (fun a b => f a = some b) as (as.filterMap f) := by
  induction as with
  | nil => exact .nil
  | cons a as ih =>
    obtain ⟨ha, has⟩ := List.forall_mem_cons.mp h
    obtain ⟨b, hb⟩ := Option.isSome_iff_exists.mp ha
    rw [List.filterMap_cons_some hb]
    exact .cons hb (ih has)

/-- What goes with a list in each of two ways, joined by position, goes with it in both. -/
theorem forall₂_zipWith {r : α → β → Prop} {r' : α → γ → Prop} {δ : Type} {f : β → γ → δ}
    {p : α → δ → Prop} (hp : ∀ a b c, r a b → r' a c → p a (f b c)) (h : List.Forall₂ r as bs)
    (h' : List.Forall₂ r' as cs) : List.Forall₂ p as (bs.zipWith f cs) := by
  induction h generalizing cs with
  | nil => exact .nil
  | cons hab _ ih =>
    cases h' with
    | cons hac hrest => exact .cons (hp _ _ _ hab hac) (ih hrest)

/-- The index of the only element of a kind, if there is one. -/
def IsIndexOf (p : α → Bool) (as : List α) (index? : Option Nat) : Prop :=
  ∀ i, index? = some i ↔ ∃ a, as[i]? = some a ∧ p a = true

/-- A search for an element finds the only one. -/
theorem isIndexOf_findIdx? {p : α → Bool} (h : as.Pairwise fun a b => p b = true → p a = false) :
    IsIndexOf p as (as.findIdx? p) := by
  intro i
  rw [List.findIdx?_eq_some_iff_getElem]
  simp only [List.getElem?_eq_some_iff]
  constructor
  · rintro ⟨hi, hp, -⟩
    exact ⟨_, ⟨hi, rfl⟩, hp⟩
  · rintro ⟨_, ⟨hi, rfl⟩, hp⟩
    refine ⟨hi, hp, fun j hji => ?_⟩
    exact Bool.eq_false_iff.mp (List.pairwise_iff_getElem.mp h j i _ hi hji hp)

end

/-! ### Columns -/

/-- A schema whose columns are those of the declarations of a record type, place by place. -/
structure Schema.IsAligned (s : Schema ρ) (R : RecordType ρ) : Prop where
  /-- All that is resolved is bound. -/
  bindings : resolveBindings R.name (R.declarations.map Declaration.descriptor) = .ok s.bindings
  /-- There are as many accessors as bindings. -/
  length : (boundAccessors R.declarations).length = s.bindings.length
  /-- Each accessor is that of the binding at its place. -/
  accessors : s.columns.map Column.accessor = boundAccessors R.declarations
  /-- Binding and accessor at a place are those of the declaration at this place. -/
  columns : List.Forall₂ (fun d c => Column.Follows c d) R.kept s.columns
  /-- Writing at a place changes no property but the one that is bound there. -/
  apart : R.KeepsApart → ∀ c ∈ s.columns, ∀ c' ∈ s.columns,
    c.binding.property ≠ c'.binding.property → c.accessor.Spares c'.accessor
  /-- The only identity is found at its index. -/
  identity : IsIndexOf Binding.isIdentity s.bindings (s.bindings.findIdx? Binding.isIdentity) ∧
    s.identityColumn? = (s.bindings.findIdx? Binding.isIdentity).bind (s.columns[·]?)
  /-- So is the only property that is searched by area. -/
  geo : IsIndexOf Binding.isGeo s.bindings (s.bindings.findIdx? Binding.isGeo) ∧
    s.geo? = (s.bindings.findIdx? Binding.isGeo).bind (s.bindings[·]?)

/-- Nothing is lost when as many accessors as there are bindings are joined to them. -/
theorem map_zipWith_mk {bindings : List Binding} {accessors : List (Accessor ρ)}
    (h : accessors.length = bindings.length) :
    (bindings.zipWith Column.mk accessors).map Column.binding = bindings ∧
      (bindings.zipWith Column.mk accessors).map Column.accessor = accessors := by
  rw [← List.map_uncurry_zip_eq_zipWith, List.map_map, List.map_map]
  exact ⟨List.map_fst_zip (Nat.le_of_eq h.symm), List.map_snd_zip (Nat.le_of_eq h)⟩

/-- **Bindings and accessors that are joined by position belong together.** -/
theorem forall₂_columns {R : RecordType ρ} (hmade : ∀ d ∈ R.declarations, d.IsMade)
    {bindings : List Binding}
    (h : resolveBindings R.name (R.declarations.map Declaration.descriptor) = .ok bindings) :
    (boundAccessors R.declarations).length = bindings.length ∧
      List.Forall₂ (fun d c => Column.Follows c d) R.kept
        (bindings.zipWith Column.mk (boundAccessors R.declarations)) := by
  have hbindings : List.Forall₂ (fun d b => b.Follows d.descriptor) R.kept bindings := by
    have hfollows := forall₂_follows_iff.mpr (resolveBindings_eq_ok_iff.mp h).1
    rwa [List.filter_map, List.forall₂_map_left_iff] at hfollows
  have haccessors : List.Forall₂ (fun d a => d.accessor? = some a) R.kept
      (boundAccessors R.declarations) :=
    forall₂_filterMap fun d hd =>
      (hmade d (List.mem_of_mem_filter hd)).isSome_accessor? (List.mem_filter.mp hd).2
  exact ⟨haccessors.length_eq.symm.trans hbindings.length_eq,
    forall₂_zipWith (fun _ _ _ hb ha => ⟨hb, ha⟩) hbindings haccessors⟩

/-- Columns of distinct properties are those of declarations of distinct properties. -/
theorem spares_of_forall₂_follows {R : RecordType ρ} {columns : List (Column ρ)}
    (h : List.Forall₂ (fun d c => Column.Follows c d) R.kept columns) (hapart : R.KeepsApart)
    {c c' : Column ρ} (hc : c ∈ columns) (hc' : c' ∈ columns)
    (hne : c.binding.property ≠ c'.binding.property) : c.accessor.Spares c'.accessor := by
  have hdeclared : ∀ c ∈ columns, ∃ d ∈ R.declarations, Column.Follows c d := by
    intro c hc
    obtain ⟨i, hi, rfl⟩ := List.getElem_of_mem hc
    have hi' : i < R.kept.length := h.length_eq ▸ hi
    exact ⟨_, List.mem_of_mem_filter (List.getElem_mem hi'), h.get hi' hi⟩
  obtain ⟨d, hd, hfollows, haccessor⟩ := hdeclared c hc
  obtain ⟨d', hd', hfollows', haccessor'⟩ := hdeclared c' hc'
  rw [hfollows.1, hfollows'.1] at hne
  exact hapart d hd d' hd' hne _ haccessor _ haccessor'

/-- **Every schema that is built is aligned.** There are as many accessors as bindings, each is that
of the property that is bound at its place, and the indices of the identity and of what is searched
by area are those of the only binding of the kind. -/
theorem Schema.isAligned_of_build {R : RecordType ρ} {s : Schema ρ}
    (hmade : ∀ d ∈ R.declarations, d.IsMade) (h : build R = .ok s) : s.IsAligned R := by
  rw [build, ofDeclarations] at h
  cases hresolve : resolveBindings R.name (R.declarations.map Declaration.descriptor) with
  | error e =>
    rw [hresolve] at h
    cases h
  | ok bindings =>
    rw [hresolve] at h
    cases h
    obtain ⟨hlength, hcolumns⟩ := forall₂_columns hmade hresolve
    obtain ⟨hbindings, haccessors⟩ := map_zipWith_mk hlength
    have hcompatible := (resolveBindings_eq_ok_iff.mp hresolve).2.toCompatible
    refine ⟨?_, ?_, haccessors, hcolumns, fun hapart c hc c' hc' hne =>
      spares_of_forall₂_follows hcolumns hapart hc hc' hne, ⟨?_, ?_⟩, ⟨?_, ?_⟩⟩
    · rw [Schema.bindings, hbindings, hresolve]
    · rw [Schema.bindings, hbindings, hlength]
    · rw [Schema.bindings, hbindings]
      exact isIndexOf_findIdx? hcompatible.identity
    · rw [Schema.bindings, List.findIdx?_map]
      exact List.find?_eq_bind_findIdx?_getElem?
    · rw [Schema.bindings, hbindings]
      exact isIndexOf_findIdx? hcompatible.geo
    · exact List.find?_eq_bind_findIdx?_getElem?

/-- A text that is left out once and kept once, and an identity behind a property without one. -/
def partlyLeftOut : RecordType (Clash.Pair String RecordId) where
  name := "PartlyLeftOut"
  blank := ⟨"", ⟨""⟩⟩
  declarations := [
    .noIndex "ghost",
    .property "a" .noIndex Clash.Pair.a fun r v => { r with a := v },
    .analyzedAs "a" "text" Clash.Pair.a fun r v => { r with a := v },
    .noIndex "b",
    .field "b" Clash.Pair.b fun r v => { r with b := v }]

theorem isMade_partlyLeftOut : ∀ d ∈ partlyLeftOut.declarations, d.IsMade := by
  simp only [partlyLeftOut, List.forall_mem_cons]
  exact ⟨.noIndex _, .property .., .property .., .noIndex _, .property .., List.forall_mem_nil _⟩

theorem accessor_of_mem_partlyLeftOut {d : Declaration (Clash.Pair String RecordId)}
    (hd : d ∈ partlyLeftOut.declarations) {a : Accessor (Clash.Pair String RecordId)}
    (ha : a ∈ d.accessor?) :
    d.descriptor.property = "a" ∧ a = .ofLens Clash.Pair.a (fun r v => { r with a := v }) ∨
      d.descriptor.property = "b" ∧ a = .ofLens Clash.Pair.b (fun r v => { r with b := v }) := by
  simp only [partlyLeftOut, List.mem_cons, List.not_mem_nil, or_false] at hd
  rcases hd with rfl | rfl | rfl | rfl | rfl
  · cases ha
  · exact .inl ⟨rfl, (Option.some.inj ha).symm⟩
  · exact .inl ⟨rfl, (Option.some.inj ha).symm⟩
  · cases ha
  · exact .inr ⟨rfl, (Option.some.inj ha).symm⟩

theorem keepsApart_partlyLeftOut : partlyLeftOut.KeepsApart := by
  intro d hd d' hd' hne a ha a' ha'
  rcases accessor_of_mem_partlyLeftOut hd ha with ⟨hname, rfl⟩ | ⟨hname, rfl⟩ <;>
    rcases accessor_of_mem_partlyLeftOut hd' ha' with ⟨hname', rfl⟩ | ⟨hname', rfl⟩
  · exact absurd (hname.trans hname'.symm) hne
  · exact Accessor.spares_ofLens fun _ _ => rfl
  · exact Accessor.spares_ofLens fun _ _ => rfl
  · exact absurd (hname.trans hname'.symm) hne

/-- The identity is the second of the columns, and setting it leaves the text alone. -/
theorem isAligned_of_build_partlyLeftOut :
    (∀ d ∈ partlyLeftOut.declarations, d.IsMade) ∧ partlyLeftOut.KeepsApart ∧
      ∃ s, Schema.build partlyLeftOut = .ok s ∧ s.IsAligned partlyLeftOut ∧
        s.bindings.map Binding.field = ["text", "b"] ∧
        s.bindings.findIdx? Binding.isIdentity = some 1 ∧
        ∃ text id, s.columns = [text, id] ∧ id.accessor.Spares text.accessor := by
  have haligned := Schema.isAligned_of_build isMade_partlyLeftOut rfl
  refine ⟨isMade_partlyLeftOut, keepsApart_partlyLeftOut, _, rfl, haligned, rfl, rfl, _, _, rfl, ?_⟩
  exact haligned.apart keepsApart_partlyLeftOut _ (.tail _ (.head _)) _ (.head _) (by decide)

end Catalog
