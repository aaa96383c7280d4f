import Catalog.Document

/-!
# Record types whose properties clash

Record types without a schema, one for each reason that descriptions do not go together, and the one
whose schema has no bindings.

## Main definitions

* `twoGeo`, `twoId`, `dupField`, `geoOnText`, `takesImplicit`: record types that no schema is
  built for
* `nothing`: a record type of which everything is left out
-/

namespace Catalog.Clash

/-- A record of two properties. -/
structure Pair (α β : Type) where
  a : α
  b : β

/-- A record of one property. -/
structure Single (α : Type) where
  a : α

/-- Two properties that are searched by area, where there may be one: the reason is
`SchemaError.duplicateGeo`. -/
def twoGeo : RecordType (Pair GeoPoint GeoPoint) where
  name := "TwoGeo"
  blank := ⟨.origin, .origin⟩
  declarations := [
    .geo "a" Pair.a fun r v => { r with a := v },
    .geo "b" Pair.b fun r v => { r with b := v }]

/-- Two identities, one of them optional, where there may be one: the reason is
`SchemaError.duplicateIdentity`. -/
def twoId : RecordType (Pair RecordId (Option RecordId)) where
  name := "TwoId"
  blank := ⟨⟨""⟩, none⟩
  declarations := [
    .field "a" Pair.a fun r v => { r with a := v },
    .field "b" Pair.b fun r v => { r with b := v }]

/-- Two properties in one field, since the second one is stored under the name of the first: the
reason is `SchemaError.duplicateField`. -/
def dupField : RecordType (Pair String Int64) where
  name := "DupField"
  blank := ⟨"", 0⟩
  declarations := [
    .field "a" Pair.a fun r v => { r with a := v },
    .storedAs "b" "a" Pair.b fun r v => { r with b := v }]

/-- A text that is searched by area, which only a point can be: the reason is
`SchemaError.geoKind`. -/
def geoOnText : RecordType (Single String) where
  name := "GeoOnText"
  blank := ⟨""⟩
  declarations := [.geo "place" Single.a fun _ v => ⟨v⟩]

/-- A property in the field of the implicit identity, which is taken as there is no other identity:
the reason is `SchemaError.duplicateField`. -/
def takesImplicit : RecordType (Single UInt32) where
  name := "TakesImplicit"
  blank := ⟨0⟩
  declarations := [.storedAs "x" implicitIdField Single.a fun _ v => ⟨v⟩]

/-- No property but one that is left out, so that nothing can clash. -/
def nothing : RecordType Unit where
  name := "Nothing"
  blank := ()
  declarations := [.noIndex "ghost"]

end Catalog.Clash
