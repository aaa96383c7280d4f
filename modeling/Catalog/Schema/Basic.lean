import Catalog.Field.Type
import Catalog.Schema.Binding

/-!
# Schemas of record types

A record type declares its properties with the way to read and to write each. Its schema holds the
resolved bindings, each beside its accessor.

## Main definitions

* `Accessor`: reading and writing one property
* `Declaration`: what a record type says about one property
* `RecordType`: a type of records
* `Schema`, `Schema.build`: the bindings of a record type with their accessors
-/

namespace Catalog

/-- Reading and writing one property of a record. -/
structure Accessor (ρ : Type) where
  read : ρ → Except CodecError (Option FieldValue)
  write : ρ → FieldValue → Except CodecError ρ

/-- The accessor of a component of a record. -/
def Accessor.ofLens {ρ α : Type} [FieldType α] (get : ρ → α) (set : ρ → α → ρ) : Accessor ρ where
  read r := FieldType.toField (get r)
  write r v := (FieldType.ofField v).map (set r)

/-- What a record type says about one property. One that is left out needs no accessor. -/
structure Declaration (ρ : Type) where
  descriptor : Descriptor
  accessor? : Option (Accessor ρ)

namespace Declaration

variable {ρ α : Type} [FieldType α]

/-- A property with any marker. -/
def property (name : String) (marker : Marker) (get : ρ → α) (set : ρ → α → ρ) :
    Declaration ρ :=
  ⟨⟨name, marker, FieldType.kind α⟩, some (.ofLens get set)⟩

/-- A property stored under its own name. -/
def field (name : String) (get : ρ → α) (set : ρ → α → ρ) : Declaration ρ :=
  property name .unmarked get set

/-- A property that is indexed word by word. -/
def analyzed (name : String) (get : ρ → α) (set : ρ → α → ρ) : Declaration ρ :=
  property name (.analyzed none) get set

/-- A property that is indexed word by word, under another name. -/
def analyzedAs (name storedName : String) (get : ρ → α) (set : ρ → α → ρ) : Declaration ρ :=
  property name (.analyzed (some storedName)) get set

/-- A property that is stored. -/
def stored (name : String) (get : ρ → α) (set : ρ → α → ρ) : Declaration ρ :=
  property name (.stored none) get set

/-- A property that is stored under another name. -/
def storedAs (name storedName : String) (get : ρ → α) (set : ρ → α → ρ) : Declaration ρ :=
  property name (.stored (some storedName)) get set

/-- A property that is searched by area. -/
def geo (name : String) (get : ρ → α) (set : ρ → α → ρ) : Declaration ρ :=
  property name .geo get set

/-- A property that is left out. -/
def noIndex (name : String) : Declaration ρ :=
  ⟨⟨name, .noIndex, .structured⟩, none⟩

end Declaration

/-- A type of records. -/
structure RecordType (ρ : Type) where
  /-- The name of the index that holds the records. -/
  name : String
  /-- The record before anything is read into it. -/
  blank : ρ
  declarations : List (Declaration ρ)
  /-- Receives the distance from the center of an area search. -/
  setDistance : ρ → Float → ρ := fun r _ => r

/-- A binding with its accessor. -/
structure Column (ρ : Type) where
  binding : Binding
  accessor : Accessor ρ

/-- The schema of a record type. -/
structure Schema (ρ : Type) where
  name : String
  columns : List (Column ρ)

/-- The accessors of the declarations that are not left out. -/
def boundAccessors {ρ : Type} (declarations : List (Declaration ρ)) : List (Accessor ρ) :=
  (declarations.filter fun d => d.descriptor.marker != .noIndex).filterMap Declaration.accessor?

namespace Schema

variable {ρ : Type}

/-- The schema of declarations, if they go together. -/
def ofDeclarations (name : String) (declarations : List (Declaration ρ)) :
    Except SchemaError (Schema ρ) :=
  (resolveBindings name (declarations.map Declaration.descriptor)).map fun bindings =>
    ⟨name, bindings.zipWith Column.mk (boundAccessors declarations)⟩

/-- The schema of a record type. -/
def build (R : RecordType ρ) : Except SchemaError (Schema ρ) :=
  ofDeclarations R.name R.declarations

/-- The bindings in order. -/
def bindings (s : Schema ρ) : List Binding :=
  s.columns.map Column.binding

/-- The binding of a property. -/
def binding (s : Schema ρ) (property : String) : Except SchemaError Binding :=
  match s.bindings.find? fun b => b.property == property with
  | some b => .ok b
  | none => .error (.unknownProperty s.name property)

/-- The column of the identity. -/
def identityColumn? (s : Schema ρ) : Option (Column ρ) :=
  s.columns.find? fun c => c.binding.isIdentity

/-- The binding of the identity. -/
def identity? (s : Schema ρ) : Option Binding :=
  s.identityColumn?.map Column.binding

/-- The document field of the identity. -/
def identityField (s : Schema ρ) : String :=
  (s.identity?.map Binding.field).getD implicitIdField

/-- The binding that is searched by area. -/
def geo? (s : Schema ρ) : Option Binding :=
  s.bindings.find? Binding.isGeo

end Schema

end Catalog
