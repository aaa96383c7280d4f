import Catalog.Document
import Catalog.Proofs.Field.PropertyType
import Catalog.Proofs.Schema.Resolution

/-!
# Descriptions of record types

A record type is described by its properties, each a component of the record that can be read and
replaced without touching the others. Its schema, if there is one, has one column for each property
that is not left out, in the order of the description.

## Main definitions

* `Property`: a component of a record with the type of its values
* `Property.Independent`: two components that do not touch each other
* `RecordDescription`: a record type by its members
* `Property.binding`, `Property.column`: what a schema has for a property

## Main results

* `RecordDescription.columns_of_build`: the columns of the schema
-/

namespace Catalog

/-! ### Properties -/

/-- A component of a record that is kept under a marker, with the way to read and to replace it. The
law `get_set`, that what is put in is then there, is a condition on the record type: the theorems on
the record of a document, `RecordDescription.ofDocument_toDocument` and
`RecordDescription.ofStored_reads`, hold of types that keep it. -/
structure Property (ρ : Type) : Type 1 where
  name : String
  marker : Marker
  isBound : marker ≠ .noIndex
  {α : Type}
  type : PropertyType α
  get : ρ → α
  set : ρ → α → ρ
  get_set : ∀ r a, get (set r a) = a

variable {ρ : Type}

namespace Property

/-- Two components that do not touch each other. -/
def Independent (P Q : Property ρ) : Prop :=
  (∀ r a, Q.get (P.set r a) = Q.get r) ∧ ∀ r a, P.get (Q.set r a) = P.get r

/-- What a record type says about the property. -/
def declaration (P : Property ρ) : Declaration ρ :=
  @Declaration.property ρ P.α P.type.fieldType P.name P.marker P.get P.set

theorem isSome_binding? (P : Property ρ) : P.declaration.descriptor.binding?.isSome := by
  have hbound := P.isBound
  show (Descriptor.binding? ⟨P.name, P.marker, P.type.kind⟩).isSome
  cases hm : P.marker <;> simp_all [Descriptor.binding?]

/-- The binding of the property. -/
def binding (P : Property ρ) : Binding :=
  P.declaration.descriptor.binding?.get P.isSome_binding?

theorem binding?_eq (P : Property ρ) : P.declaration.descriptor.binding? = some P.binding :=
  (Option.some_get P.isSome_binding?).symm

/-- The accessor of the property. -/
def accessor (P : Property ρ) : Accessor ρ :=
  @Accessor.ofLens ρ P.α P.type.fieldType P.get P.set

/-- The column of the property. -/
def column (P : Property ρ) : Column ρ :=
  ⟨P.binding, P.accessor⟩

end Property

theorem Descriptor.kind_of_binding? {d : Descriptor} {b : Binding} (h : d.binding? = some b) :
    b.kind = d.kind := by
  unfold Descriptor.binding? at h
  split at h <;> cases h <;> rfl

@[simp] theorem Property.binding_kind (P : Property ρ) : P.binding.kind = P.type.kind :=
  Descriptor.kind_of_binding? P.binding?_eq

/-! ### Record types -/

/-- A member of a record: a property, or a component that is left out. -/
inductive Member (ρ : Type) : Type 1
  | property (P : Property ρ)
  | leftOut (name : String)

namespace Member

/-- What a record type says about the member. -/
def declaration : Member ρ → Declaration ρ
  | property P => P.declaration
  | leftOut name => .noIndex name

/-- The member as a property. -/
def property? : Member ρ → Option (Property ρ)
  | property P => some P
  | leftOut _ => none

end Member

/-- A record type by its members. That no property touches another one, `independent`, is a condition
on the record type as `Property.get_set` is: with two properties in one component, what is read into
one of them would be lost to the other. -/
structure RecordDescription (ρ : Type) : Type 1 where
  name : String
  blank : ρ
  members : List (Member ρ)
  setDistance : ρ → Float → ρ := fun r _ => r
  independent : (members.filterMap Member.property?).Pairwise Property.Independent

namespace RecordDescription

/-- The properties that are kept, in order. -/
def properties (R : RecordDescription ρ) : List (Property ρ) :=
  R.members.filterMap Member.property?

/-- The record type of a description. -/
def recordType (R : RecordDescription ρ) : RecordType ρ where
  name := R.name
  blank := R.blank
  declarations := R.members.map Member.declaration
  setDistance := R.setDistance

theorem filterMap_binding? (members : List (Member ρ)) :
    (members.map fun m => m.declaration.descriptor).filterMap Descriptor.binding? =
      (members.filterMap Member.property?).map Property.binding := by
  induction members with
  | nil => rfl
  | cons m members ih =>
    cases m with
    | property P =>
      have hsome : (Member.property P).declaration.descriptor.binding? = some P.binding :=
        P.binding?_eq
      rw [List.map_cons, List.filterMap_cons_some hsome, ih]
      rfl
    | leftOut name => exact ih

theorem boundAccessors_map (members : List (Member ρ)) :
    boundAccessors (members.map Member.declaration) =
      (members.filterMap Member.property?).map Property.accessor := by
  induction members with
  | nil => rfl
  | cons m members ih =>
    rw [boundAccessors] at ih ⊢
    cases m with
    | property P =>
      have hbound : ((Member.property P).declaration.descriptor.marker != .noIndex) = true :=
        bne_iff_ne.mpr P.isBound
      have hsome : (Member.property P).declaration.accessor? = some P.accessor := rfl
      rw [List.map_cons, List.filter_cons, if_pos hbound, List.filterMap_cons_some hsome, ih]
      rfl
    | leftOut name => exact ih

/-- The bindings of a record type that has a schema are those of the properties that are kept. -/
theorem resolveBindings_of_build {R : RecordDescription ρ} {s : Schema ρ}
    (h : Schema.build R.recordType = .ok s) :
    resolveBindings R.recordType.name (R.recordType.declarations.map Declaration.descriptor) =
      .ok (R.properties.map Property.binding) := by
  rw [Schema.build, Schema.ofDeclarations] at h
  cases hb : resolveBindings R.recordType.name
      (R.recordType.declarations.map Declaration.descriptor) with
  | error e =>
    rw [hb] at h
    cases h
  | ok bindings =>
    rw [(resolveBindings_eq_ok_iff.mp hb).1, recordType, List.map_map]
    exact congrArg Except.ok (filterMap_binding? R.members)

/-- **The columns of a schema are those of the properties that are kept.** -/
theorem columns_of_build {R : RecordDescription ρ} {s : Schema ρ}
    (h : Schema.build R.recordType = .ok s) : s.columns = R.properties.map Property.column := by
  have hb := resolveBindings_of_build h
  rw [Schema.build, Schema.ofDeclarations, hb] at h
  obtain rfl := Except.ok.inj h
  show List.zipWith Column.mk (R.properties.map Property.binding)
    (boundAccessors (R.members.map Member.declaration)) = _
  rw [boundAccessors_map, ← properties, List.zipWith_map, List.zipWith_self]
  rfl

end RecordDescription

end Catalog
