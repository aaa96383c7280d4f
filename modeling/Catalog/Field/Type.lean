import Catalog.Field.Codec
import Catalog.Json.Data

/-!
# Types of properties

The types that a property of a record may have. Each belongs to one kind and says how its values
become values of that kind and back; an option is left out of a document when it is absent.

## Main definitions

* `FieldType`: a type of properties
* `Structured`: a type kept as JSON
-/

namespace Catalog

/-- A type that a property may have. -/
class FieldType (α : Type) where
  /-- The kind of properties of the type. -/
  kind : FieldKind
  /-- The value of a property; none if it is absent. -/
  toField : α → Except CodecError (Option FieldValue)
  /-- The property of a value. -/
  ofField : FieldValue → Except CodecError α

/-- The error for a value of another kind. -/
def FieldValue.mismatch (v : FieldValue) (expected : FieldKind) : CodecError :=
  .kindMismatch expected (.value v.kind)

/-- A type of integers between two bounds. -/
@[reducible]
def FieldType.ofIntegers {α : Type} (least greatest : Int) (toInt : α → Int) (ofInt : Int → α) :
    FieldType α where
  kind := .int
  toField a := .ok (some (.int (Int64.ofInt (toInt a))))
  ofField
    | .int n =>
      if least ≤ n.toInt ∧ n.toInt ≤ greatest then .ok (ofInt n.toInt)
      else .error (.outOfRange n.toInt)
    | v => .error (v.mismatch .int)

instance : FieldType Int8 := .ofIntegers (-2 ^ (7 : Nat)) (2 ^ (7 : Nat) - 1) Int8.toInt Int8.ofInt
instance : FieldType Int16 := .ofIntegers (-2 ^ (15 : Nat)) (2 ^ (15 : Nat) - 1) Int16.toInt Int16.ofInt
instance : FieldType Int32 := .ofIntegers (-2 ^ (31 : Nat)) (2 ^ (31 : Nat) - 1) Int32.toInt Int32.ofInt
instance : FieldType Int64 := .ofIntegers (-2 ^ (63 : Nat)) (2 ^ (63 : Nat) - 1) Int64.toInt Int64.ofInt
instance : FieldType UInt8 :=
  .ofIntegers 0 (2 ^ (8 : Nat) - 1) (fun n => (n.toNat : Int)) (fun n => n.toNat.toUInt8)
instance : FieldType UInt16 :=
  .ofIntegers 0 (2 ^ (16 : Nat) - 1) (fun n => (n.toNat : Int)) (fun n => n.toNat.toUInt16)
instance : FieldType UInt32 :=
  .ofIntegers 0 (2 ^ (32 : Nat) - 1) (fun n => (n.toNat : Int)) (fun n => n.toNat.toUInt32)

instance : FieldType UInt64 where
  kind := .uint
  toField n := .ok (some (.uint n))
  ofField
    | .uint n => .ok n
    | v => .error (v.mismatch .uint)

instance : FieldType Double where
  kind := .float
  toField x := .ok (some (.float x))
  ofField
    | .float x => .ok x
    | v => .error (v.mismatch .float)

instance : FieldType Single where
  kind := .float
  toField x := .ok (some (.float x.widen))
  ofField
    | .float x => .ok x.narrow
    | v => .error (v.mismatch .float)

instance : FieldType String where
  kind := .text
  toField s := .ok (some (.text s))
  ofField
    | .text s => .ok s
    | v => .error (v.mismatch .text)

instance : FieldType RecordId where
  kind := .identity
  toField i := .ok (some (.id i))
  ofField
    | .id i => .ok i
    | .text s => .ok ⟨s⟩
    | v => .error (v.mismatch .identity)

/-- A date and time without a zone. One in UTC is written as the same without its zone and gets it
back when it is read, so this is the type for both. -/
instance : FieldType Moment where
  kind := .date
  toField m := .ok (some (.date m.truncate))
  ofField
    | .date m => .ok m
    | v => .error (v.mismatch .date)

instance : FieldType GeoPoint where
  kind := .geo
  toField p := .ok (some (.geo p))
  ofField
    | .geo p => .ok p
    | v => .error (v.mismatch .geo)

instance {α : Type} [FieldType α] : FieldType (Option α) where
  kind := FieldType.kind α
  toField
    | some a => FieldType.toField a
    | none => .ok none
  ofField v := (FieldType.ofField v).map some

/-- A property kept as the JSON text of its value. -/
structure Structured (α : Type) where
  value : α

instance {α : Type} [JsonData α] : FieldType (Structured α) where
  kind := .structured
  toField s :=
    match JsonData.write? s.value with
    | some t => .ok (some (.structured t))
    | none => .error .structured
  ofField
    | .structured t =>
      match JsonData.read? t with
      | some a => .ok ⟨a⟩
      | none => .error .structured
    | v => .error (v.mismatch .structured)

end Catalog
