import Catalog.Schema.Basic

/-!
# Documents

A document is a list of named values. A record becomes one by its schema, column by column, and is
read back from the first value of each field. What is read may be any document: its fields may be
missing, and they may hold values that no column writes.

## Main definitions

* `StoreField`, `Schema.storeFields`: the fields of the index of a record type
* `Document`: a list of named values
* `StoredValue`, `StoredDocument`: what a field may hold, and a document with such values
* `Schema.toDocument`: the document of a record
* `Schema.ofStored`, `Schema.ofDocument`: the record of a document
* `Schema.recordIdentity`: the identity of a record
-/

namespace Catalog

/-- How the texts of a field are indexed. -/
inductive Indexing where
  /-- Not at all. -/
  | none
  /-- As a whole. -/
  | whole
  /-- Word by word. -/
  | words
  deriving DecidableEq, Repr

/-- A field of an index. -/
structure StoreField where
  name : String
  type : StoreType
  indexing : Indexing
  stored : Bool
  /-- Whether the values are also kept in a column. -/
  columnar : Bool
  deriving DecidableEq, Repr

/-- A field that keeps a value of a type as it is. Numbers are also kept in a column. -/
def StoreField.raw (name : String) (type : StoreType) : StoreField :=
  ⟨name, type, .whole, true, type != .text⟩

/-- The fields of a binding. -/
def Binding.storeFields (b : Binding) : List StoreField :=
  .raw b.field b.kind.storeType ::
    (b.analysisField?.map fun n => ⟨n, .text, .words, false, false⟩).toList ++
    match b.spatial? with
    | some f => [⟨f.point, .text, .none, true, false⟩, .raw f.x .double, .raw f.y .double]
    | none => []

/-- The fields of an index for some bindings. Without an identity there is a field for an implicit
one, before all others. -/
def storeFieldsOf (bindings : List Binding) : List StoreField :=
  (if bindings.any Binding.isIdentity then [] else [.raw implicitIdField .text]) ++
    bindings.flatMap Binding.storeFields

/-- The fields of the index of a record type. -/
def Schema.storeFields {ρ : Type} (s : Schema ρ) : List StoreField :=
  storeFieldsOf s.bindings

/-- A list of named values. -/
structure Document where
  values : List (String × Payload)
  deriving DecidableEq

/-- The first value of a field. -/
def Document.first? (d : Document) (field : String) : Option Payload :=
  (d.values.find? fun e => e.1 == field).map Prod.snd

/-- What a field may hold. Besides those that columns write there are values of other types (truth
values, bytes, addresses and so on), which nothing is read from. -/
inductive StoredValue where
  | payload (p : Payload)
  | foreign
  deriving DecidableEq

/-- A list of named values of any types. -/
structure StoredDocument where
  values : List (String × StoredValue)
  deriving DecidableEq

/-- The first value of a field. -/
def StoredDocument.first? (d : StoredDocument) (field : String) : Option StoredValue :=
  (d.values.find? fun e => e.1 == field).map Prod.snd

/-- A document with nothing but payloads. -/
def Document.stored (d : Document) : StoredDocument :=
  ⟨d.values.map fun e => (e.1, .payload e.2)⟩

/-- A stored value as a payload of a kind, if it has the type for it. -/
def FieldKind.readStored? (k : FieldKind) (p : Payload) : Option Payload :=
  if p.type = k.storeType then some p else none

/-- The payload of a kind that a field holds, if it holds one. -/
def FieldKind.readValue? (k : FieldKind) : StoredValue → Option Payload
  | .payload p => k.readStored? p
  | .foreign => none

/-- The first value of a field, if it has the type that a kind needs. -/
def Document.stored? (d : Document) (field : String) (k : FieldKind) : Option Payload :=
  (d.first? field).bind k.readStored?

/-- The fields that area searches read, for a value that is a point. -/
def Binding.spatialValues (b : Binding) (v : FieldValue) : List (String × Payload) :=
  match b.spatial?, v with
  | some f, .geo p => f.values p
  | _, _ => []

/-- The values that a column adds to the document of a record. -/
def Column.values {ρ : Type} (c : Column ρ) (r : ρ) : Except CodecError (List (String × Payload)) :=
  match c.accessor.read r with
  | .error e => .error (e.attribute c.binding.field)
  | .ok none => .ok []
  | .ok (some v) =>
    match c.binding.kind.encode v with
    | .error e => .error (e.attribute c.binding.field)
    | .ok p =>
      .ok ((c.binding.field, p) ::
        (c.binding.analysisField?.map fun n => (n, Payload.text p.toText)).toList ++
        c.binding.spatialValues v)

/-- Writes the value that a document has for a column into a record. -/
def Column.restore {ρ : Type} (d : StoredDocument) (r : ρ) (c : Column ρ) : Except CodecError ρ :=
  match d.first? c.binding.field with
  | none => .ok r
  | some v =>
    match c.binding.kind.readValue? v with
    | none => .error (.inField c.binding.field (.kindMismatch c.binding.kind .stored))
    | some p =>
      match (c.binding.kind.decode p).bind (c.accessor.write r) with
      | .ok r => .ok r
      | .error e => .error (e.attribute c.binding.field)

namespace Schema

variable {ρ : Type}

/-- The document of a record, with an implicit identity in front if there is one. -/
def toDocument (s : Schema ρ) (r : ρ) (implicit : Option RecordId) :
    Except CodecError Document :=
  (s.columns.mapM fun (c : Column ρ) => c.values r).map fun parts =>
    ⟨(implicit.map fun i => (implicitIdField, Payload.text i.text)).toList ++ parts.flatten⟩

/-- The record of a document: a blank one with each column written into it that has a value. -/
def ofStored (s : Schema ρ) (blank : ρ) (d : StoredDocument) : Except CodecError ρ :=
  s.columns.foldlM (Column.restore d) blank

/-- The record of a document with nothing but payloads. -/
def ofDocument (s : Schema ρ) (blank : ρ) (d : Document) : Except CodecError ρ :=
  s.ofStored blank d.stored

/-- The identity of a record, if its type has one and it is not empty. -/
def recordIdentity (s : Schema ρ) (r : ρ) : Except CodecError (Option RecordId) :=
  match s.identityColumn? with
  | none => .ok none
  | some c =>
    (c.accessor.read r).map fun v =>
      match v with
      | some (.id i) => if i.text.isEmpty then none else some i
      | some (.text t) => if t.isEmpty then none else some ⟨t⟩
      | _ => none

end Schema

end Catalog
