import Catalog.Area

/-!
# Bindings of properties to document fields

A record type describes its properties one by one; each one that is not left out is bound to the
document fields that keep it. Bindings are resolved in the order of the descriptions, and the first
one that does not go together with those before it is an error.

## Main definitions

* `Descriptor`: the description of a property, with its `Marker`
* `Binding`: a property with its document fields
* `resolveBindings`: the bindings of a list of descriptions
* `SchemaError`: why descriptions do not go together
-/

namespace Catalog

/-- What a record type says about a property besides its kind. -/
inductive Marker where
  /-- Stored under the name of the property. -/
  | unmarked
  /-- Stored, and indexed word by word; the field may have a name of its own. -/
  | analyzed (field : Option String)
  /-- Stored; the field may have a name of its own. -/
  | stored (field : Option String)
  /-- Stored, and searched by area. -/
  | geo
  /-- Left out. -/
  | noIndex
  deriving DecidableEq, Repr

/-- The description of a property. -/
structure Descriptor where
  property : String
  marker : Marker
  kind : FieldKind
  deriving DecidableEq, Repr

/-- How a bound property is kept. -/
inductive Role where
  | analyzed
  | stored
  | geo
  deriving DecidableEq, Repr

/-- The name of a role. -/
def Role.name : Role → String
  | .analyzed => "analyzed"
  | .stored => "stored"
  | .geo => "geo"

/-- A property with the document field that keeps it. -/
structure Binding where
  property : String
  field : String
  role : Role
  kind : FieldKind
  deriving DecidableEq, Repr

/-- The end of the name of the field that is indexed word by word. -/
def analysisSuffix : String := "-analysis"

/-- The field of the identity of records whose type declares none. -/
def implicitIdField : String := "entityId"

/-- The field that is indexed word by word. -/
def Binding.analysisField? (b : Binding) : Option String :=
  if b.role = .analyzed then some (b.field ++ analysisSuffix) else none

/-- The fields that area searches read. -/
def Binding.spatial? (b : Binding) : Option SpatialFields :=
  if b.role = .geo then some (.ofProperty b.property) else none

/-- The field that clauses on words search. -/
def Binding.textField (b : Binding) : String :=
  b.analysisField?.getD b.field

/-- The field that exact, range and sort operations use. -/
def Binding.rawField (b : Binding) : String :=
  b.field

/-- Whether the property is the identity of its record. -/
def Binding.isIdentity (b : Binding) : Bool :=
  b.kind == .identity

/-- Whether the property is the one searched by area. -/
def Binding.isGeo (b : Binding) : Bool :=
  b.role == .geo

/-- The names that a binding takes. -/
def Binding.names (b : Binding) : List String :=
  b.field :: b.analysisField?.toList ++ (b.spatial?.map SpatialFields.point).toList

/-- The binding of a description; none for a property that is left out. -/
def Descriptor.binding? (d : Descriptor) : Option Binding :=
  match d.marker with
  | .noIndex => none
  | .unmarked => some ⟨d.property, d.property, .stored, d.kind⟩
  | .analyzed name => some ⟨d.property, name.getD d.property, .analyzed, d.kind⟩
  | .stored name => some ⟨d.property, name.getD d.property, .stored, d.kind⟩
  | .geo => some ⟨d.property, d.property, .geo, d.kind⟩

/-- Why the descriptions of a record type do not go together, or what a schema does not have. -/
inductive SchemaError where
  | duplicateGeo (record first second : String)
  | duplicateIdentity (record first second : String)
  | duplicateField (record field : String)
  | geoKind (record property : String) (kind : FieldKind)
  | unknownProperty (record property : String)
  | noGeoField (record : String)
  deriving DecidableEq, Repr

/-- The text of an error. -/
def SchemaError.message : SchemaError → String
  | .duplicateGeo record first second =>
    "Record " ++ record ++ " declares more than one geo field: " ++ first ++ " and " ++ second
  | .duplicateIdentity record first second =>
    "Record " ++ record ++ " declares more than one identity: " ++ first ++ " and " ++ second
  | .duplicateField record field =>
    "Record " ++ record ++ " maps more than one property to field " ++ field
  | .geoKind record property kind =>
    "Property " ++ property ++ " of " ++ record ++ " is marked geo but is declared as " ++ kind.name
  | .unknownProperty record property =>
    "Record " ++ record ++ " has no indexed property " ++ property
  | .noGeoField record => "Record " ++ record ++ " has no geo field"

/-- The first name of a list that is taken, by others or by one before it in the list. -/
def firstTaken? (taken : List String) : List String → Option String
  | [] => none
  | n :: r => if taken.contains n then some n else firstTaken? (n :: taken) r

/-- The error of adding a binding to those before it, if there is one. -/
def conflict? (record : String) (before : List Binding) (b : Binding) : Option SchemaError :=
  if b.isGeo && b.kind != .geo then some (.geoKind record b.property b.kind)
  else match (if b.isGeo then before.find? Binding.isGeo else none) with
  | some first => some (.duplicateGeo record first.property b.property)
  | none =>
    match (if b.isIdentity then before.find? Binding.isIdentity else none) with
    | some first => some (.duplicateIdentity record first.property b.property)
    | none =>
      (firstTaken? (before.flatMap Binding.names) b.names).map (.duplicateField record)

/-- Adds the binding of a description to those before it. -/
def extendBindings (record : String) (before : List Binding) (d : Descriptor) :
    Except SchemaError (List Binding) :=
  match d.binding? with
  | none => .ok before
  | some b =>
    match conflict? record before b with
    | some e => .error e
    | none => .ok (before ++ [b])

/-- The bindings of a record type, in the order of its descriptions. Without an identity among
them the field of the implicit one has to be free. -/
def resolveBindings (record : String) (descriptors : List Descriptor) :
    Except SchemaError (List Binding) := do
  let bindings ← descriptors.foldlM (extendBindings record) []
  if !bindings.any Binding.isIdentity &&
      (bindings.flatMap Binding.names).contains implicitIdField then
    .error (.duplicateField record implicitIdField)
  else .ok bindings

end Catalog
