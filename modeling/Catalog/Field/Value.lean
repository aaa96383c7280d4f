import Catalog.Calendar
import Catalog.Geo

/-!
# Values of properties

What a property of a record may hold, and what is kept of it in a stored document. The kind of a
property says which of the two belong together.

## Main definitions

* `FieldKind`: the declared kind of a property
* `FieldValue`: a value, one form per kind
* `Payload`: what a stored field holds
* `CodecError`: why a value and a payload do not go together
-/

namespace Catalog

/-- The declared kind of a property. -/
inductive FieldKind where
  | identity
  | text
  /-- Signed integers, and unsigned ones of at most 32 bits. -/
  | int
  /-- Unsigned integers of 64 bits. -/
  | uint
  | float
  | date
  | geo
  /-- Everything else, kept as JSON. -/
  | structured
  deriving DecidableEq, Repr

/-- The name of a kind. -/
def FieldKind.name : FieldKind → String
  | .identity => "identity"
  | .text => "text"
  | .int => "int"
  | .uint => "uint"
  | .float => "float"
  | .date => "date"
  | .geo => "geo"
  | .structured => "structured"

/-- Whether values of the kind are kept as texts. -/
def FieldKind.isTextual : FieldKind → Bool
  | .identity | .text | .date | .geo | .structured => true
  | .int | .uint | .float => false

/-- The identity of a record. -/
structure RecordId where
  text : String
  deriving DecidableEq, Repr

/-- A value of a property. -/
inductive FieldValue where
  | id (id : RecordId)
  | text (s : String)
  | int (n : Int64)
  | uint (n : UInt64)
  | float (x : Double)
  | date (m : Moment)
  | geo (p : GeoPoint)
  | structured (json : String)
  deriving DecidableEq

/-- The kind that a value is a value of. -/
def FieldValue.kind : FieldValue → FieldKind
  | .id _ => .identity
  | .text _ => .text
  | .int _ => .int
  | .uint _ => .uint
  | .float _ => .float
  | .date _ => .date
  | .geo _ => .geo
  | .structured _ => .structured

/-- What a stored field holds. -/
inductive Payload where
  | text (s : String)
  | signed (n : Int64)
  | unsigned (n : UInt64)
  | double (x : Double)
  deriving DecidableEq

/-- The type of a stored field. -/
inductive StoreType where
  | text
  | signed
  | unsigned
  | double
  deriving DecidableEq, Repr

/-- The type of a payload. -/
def Payload.type : Payload → StoreType
  | .text _ => .text
  | .signed _ => .signed
  | .unsigned _ => .unsigned
  | .double _ => .double

/-- The type of the field that keeps values of a kind. -/
def FieldKind.storeType : FieldKind → StoreType
  | .int => .signed
  | .uint => .unsigned
  | .float => .double
  | .identity | .text | .date | .geo | .structured => .text

/-- The name of a type in listings of fields. -/
def StoreType.name : StoreType → String
  | .text => "Str"
  | .signed => "I64"
  | .unsigned => "U64"
  | .double => "F64"

/-- A payload as a text, which is what the analyzed copy of a field holds. -/
def Payload.toText : Payload → String
  | .text s => s
  | .signed n => toString n.toInt
  | .unsigned n => toString n.toNat
  | .double x => x.format

/-- What was found where something else was expected. -/
inductive Found where
  | value (kind : FieldKind)
  | payload (type : StoreType)
  | stored
  deriving DecidableEq, Repr

/-- The text of what was found. -/
def Found.message : Found → String
  | .value k => k.name
  | .payload .text => "text payload"
  | .payload .signed => "i64 payload"
  | .payload .unsigned => "u64 payload"
  | .payload .double => "f64 payload"
  | .stored => "incompatible stored value"

/-- Why a value and a payload do not go together. -/
inductive CodecError where
  | kindMismatch (expected : FieldKind) (found : Found)
  | invalidDate (text : String)
  | invalidGeo (text : String)
  | outOfRange (value : Int)
  /-- A value without a JSON text, or a text that is no JSON of the type. -/
  | structured
  /-- An error in a field of a document. -/
  | inField (field : String) (cause : CodecError)
  deriving DecidableEq, Repr

/-- The text of an error. -/
def CodecError.message : CodecError → String
  | .kindMismatch expected found =>
    "expected " ++ expected.name ++ " value, found " ++ found.message
  | .invalidDate s => "invalid date '" ++ s ++ "', expected yyyyMMddHHmmss"
  | .invalidGeo s => "invalid geo point '" ++ s ++ "', expected '<lat>;<lon>'"
  | .outOfRange n => "value " ++ toString n ++ " is out of range for the declared type"
  | .structured => "structured value"
  | .inField field cause => "field " ++ field ++ ": " ++ cause.message

/-- The error as one of a field; an error that has a field keeps it. -/
def CodecError.attribute (field : String) : CodecError → CodecError
  | .inField f cause => .inField f cause
  | e => .inField field e

end Catalog
