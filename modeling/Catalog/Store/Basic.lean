import Catalog.SearchError
import Catalog.Clause.Descriptor
import Catalog.Store.Index

/-!
# Stores

The store of a record type is its index below a common root. It is opened with a configuration, and
only if the index has the fields that the record type needs.

## Main definitions

* `StoreConfig`: where stores are and how they work
* `Store`: a store with its record type
* `Store.openExisting`, `Store.openOrCreate`: stores of what there is at a path
* `Store.analyze`: the terms that a text has in a field
-/

namespace Catalog

/-- Where stores are and how they work. -/
structure StoreConfig where
  root : String
  writerMemoryMb : Nat
  analyzer : Analyzer
  maxResults : Nat
  pageSize : Nat

/-- The bytes that a writer may use, as a word. A product that outgrows the word goes on from
zero. -/
def StoreConfig.writerBytes (c : StoreConfig) : UInt64 :=
  c.writerMemoryMb.toUInt64 * 1024 * 1024

/-- The least number of bytes for a writer. -/
def leastWriterBytes : UInt64 := 15000000

/-- The most threads of a writer. -/
def writerThreads : Nat := 8

/-- The number of bytes from which on each thread of a writer has too much. There are as many threads
as a machine runs at once, up to the most. -/
def tooManyWriterBytes (parallelism : Nat) : UInt64 :=
  (min parallelism writerThreads).toUInt64 * (4294967295 - 1000000)

/-- An open store. -/
structure Store (ρ : Type) where
  schema : Schema ρ
  config : StoreConfig
  /-- The fields that the index has. -/
  fields : List StoreField

/-- Where the index of a record type is. -/
def StoreConfig.path (c : StoreConfig) (name : String) : String :=
  c.root ++ "/" ++ name

/-- Why an index does not have a field that a record type needs. -/
def fieldMismatch? (path record : String) (found : List StoreField) (wanted : StoreField) :
    Option FieldMismatch :=
  match found.find? fun f => f.name == wanted.name with
  | none => some (.missing path wanted.name)
  | some f =>
    if f.type = wanted.type then none
    else some (.type path wanted.name record f.type wanted.type)

namespace Store

variable {ρ : Type}

/-- The name of the index. -/
def name (s : Store ρ) : String := s.schema.name

/-- Where the index is. -/
def path (s : Store ρ) : String := s.config.path s.name

/-- The store of an index, if the index has what the record type needs. -/
def ofIndex (c : StoreConfig) (schema : Schema ρ) (i : Index) : Except SearchError (Store ρ) :=
  match schema.storeFields.findSome? (fieldMismatch? (c.path schema.name) schema.name i.fields) with
  | some e => .error (.mismatch e)
  | none => .ok ⟨schema, c, i.fields⟩

/-- The error for an index that is not there. -/
def unavailable (c : StoreConfig) (schema : Schema ρ) : SearchError :=
  .unavailable schema.name (c.path schema.name)

/-- Opens the store of a record type, given what there is at its path. -/
def openExisting (c : StoreConfig) (schema : Schema ρ) (found : Option Index) :
    Except SearchError (Store ρ) :=
  match found.filter Index.isListed with
  | some i => ofIndex c schema i
  | none => .error (unavailable c schema)

/-- The index that is at a path once a store has been opened or made there. -/
def indexToOpen (schema : Schema ρ) (found : Option Index) : Index :=
  (found.filter Index.isListed).getD (.empty schema.storeFields)

/-- Opens the store of a record type; a new index is made where there is none. -/
def openOrCreate (c : StoreConfig) (schema : Schema ρ) (found : Option Index) :
    Except SearchError (Store ρ) :=
  ofIndex c schema (indexToOpen schema found)

/-- What clauses are compiled against. -/
def scope (s : Store ρ) : SearchScope where
  record := s.schema.name
  bindings := s.schema.bindings
  fields := s.fields
  analyzer := s.config.analyzer

/-- The terms that a text has in a field. -/
def analyze (s : Store ρ) (field text : String) : Except SearchError (List String) :=
  match s.fields.find? fun f => f.name == field with
  | none => .error (.noField field s.name)
  | some f =>
    if f.type = .text && f.indexing != .none then
      .ok ((f.textTerms s.config.analyzer text).map PlacedTerm.text)
    else .error (.notAnalyzed field)

end Store

end Catalog
