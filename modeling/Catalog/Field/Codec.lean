import Catalog.Field.Value
import Catalog.Json.Reader

/-!
# Encoding of values

How the values of each kind are kept: numbers as numbers, dates as texts in the order of time,
points as two decimals, structured values as JSON. The declared kind decides, never the value.

## Main definitions

* `FieldKind.encode`: the payload of a value
* `FieldKind.decode`: the value of a payload
-/

namespace Catalog

/-- The text of a point: latitude, a semicolon, longitude. -/
def GeoPoint.text (p : GeoPoint) : String :=
  formatFloat p.latitude ++ ";" ++ formatFloat p.longitude

/-- The point of a text: two decimals around one semicolon, with blanks around them. -/
def GeoPoint.ofText (s : String) : Except CodecError GeoPoint :=
  match pieces (· == ';') s.toList with
  | [a, b] =>
    match readDouble (String.ofList (trimChars a)), readDouble (String.ofList (trimChars b)) with
    | .ok latitude, .ok longitude => .ok ⟨latitude.toFloat, longitude.toFloat⟩
    | _, _ => .error (.invalidGeo s)
  | _ => .error (.invalidGeo s)

/-- The payload that keeps a value of a property of the kind. -/
def FieldKind.encode : FieldKind → FieldValue → Except CodecError Payload
  | .identity, .id i => .ok (.text i.text)
  | .identity, .text s => .ok (.text s)
  | .text, .text s => .ok (.text s)
  | .int, .int n => .ok (.signed n)
  | .uint, .uint n => .ok (.unsigned n)
  | .float, .float x => .ok (.double x)
  | .date, .date m => .ok (.text m.stamp)
  | .geo, .geo p => .ok (.text p.text)
  | .structured, .structured j => .ok (.text j)
  | k, v => .error (.kindMismatch k (.value v.kind))

/-- The value that a payload keeps for a property of the kind. -/
def FieldKind.decode : FieldKind → Payload → Except CodecError FieldValue
  | .identity, .text s => .ok (.id ⟨s⟩)
  | .text, .text s => .ok (.text s)
  | .int, .signed n => .ok (.int n)
  | .uint, .unsigned n => .ok (.uint n)
  | .float, .double x => .ok (.float x)
  | .date, .text s =>
    match Moment.ofStamp? s with
    | some m => .ok (.date m)
    | none => .error (.invalidDate s)
  | .geo, .text s => (GeoPoint.ofText s).map .geo
  | .structured, .text s =>
    if (Json.read? s).isSome then .ok (.structured s) else .error .structured
  | k, p => .error (.kindMismatch k (.payload p.type))

end Catalog
