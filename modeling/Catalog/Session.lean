import Catalog.Search.Searcher
import Catalog.Store.Writer

/-!
# Sessions

A session works on the store of one record type. Its writer is made when something is written for
the first time and its searcher when something is searched for; the searcher keeps seeing what was
committed then until it is refreshed.

## Main definitions

* `Session`: a store at work
* `Session.start`, `Session.reopen`: a session with a store that is opened, or made where needed
* `Session.useWriter`, `Session.useSearcher`: work of a writer and of a searcher
-/

namespace Catalog

/-- A store at work. -/
structure Session (σ ρ : Type) where
  type : RecordType ρ
  store : Store ρ
  index : Index
  /-- What is pending, while there is a writer. -/
  pending : Option (List Change)
  searcher : Option (Searcher ρ)
  generator : IdGenerator σ
  ids : σ

/-- Whether an index is made where there is none. -/
inductive OpenMode where
  | existing
  | create
  deriving DecidableEq, Repr

/-- What changes when a store is opened again; what is absent stays as it was. -/
structure ConfigChange where
  writerMemoryMb : Nat
  analyzer : Option Analyzer := none
  maxResults : Option Nat := none
  pageSize : Option Nat := none

/-- A configuration after a change. -/
def StoreConfig.change (c : StoreConfig) (x : ConfigChange) : StoreConfig :=
  { c with
    writerMemoryMb := x.writerMemoryMb
    analyzer := x.analyzer.getD c.analyzer
    maxResults := x.maxResults.getD c.maxResults
    pageSize := x.pageSize.getD c.pageSize }

/-- The store of a record type and its index, given what there is at the path of the index. -/
def Store.opened {ρ : Type} (mode : OpenMode) (c : StoreConfig) (schema : Schema ρ)
    (found : Option Index) : Except SearchError (Store ρ × Index) :=
  match mode with
  | .existing => (openExisting c schema found).map (·, indexToOpen schema found)
  | .create => (openOrCreate c schema found).map (·, indexToOpen schema found)

namespace Session

variable {σ ρ α : Type}

/-- A session for records of a type, given what there is at the path of their index. -/
def start (mode : OpenMode) (c : StoreConfig) (R : RecordType ρ) (g : IdGenerator σ) (ids : σ)
    (found : Option Index) : Except SearchError (Session σ ρ) := do
  let schema ← (Schema.build R).mapError .schema
  let (store, index) ← Store.opened mode c schema found
  return ⟨R, store, index, none, none, g, ids⟩

/-- The writer, which is made if there is none. -/
def writer (s : Session σ ρ) : Except SearchError Writer :=
  match s.pending with
  | some changes => .ok ⟨s.index, changes⟩
  | none => s.store.writer s.index false

/-- Lets the writer work. -/
def useWriter (s : Session σ ρ) (f : Writer → Writer × Except SearchError α) :
    Session σ ρ × Except SearchError α :=
  match s.writer with
  | .error e => (s, .error e)
  | .ok w =>
    let (w, r) := f w
    ({ s with index := w.index, pending := some w.pending }, r)

/-- Lets the writer write, with identities to give away. -/
def write {β : Type} (s : Session σ ρ) (f : Writer → Writer × WriteOutcome σ β α) :
    Session σ ρ × Except SearchError (β × α) :=
  match s.writer with
  | .error e => (s, .error e)
  | .ok w =>
    let (w, o) := f w
    ({ s with index := w.index, pending := some w.pending, ids := o.ids },
      o.result.map (o.record, ·))

/-- Saves a record; gives it back with its identity. -/
def save (s : Session σ ρ) (r : ρ) : Session σ ρ × Except SearchError (ρ × RecordId) :=
  s.write fun w => w.save s.store s.generator s.ids r

/-- Stages a record; gives it back with its identity. -/
def stage (s : Session σ ρ) (r : ρ) : Session σ ρ × Except SearchError (ρ × RecordId) :=
  s.write fun w => w.stage s.store s.generator s.ids r

/-- Saves records together; gives them back with their identities. -/
def saveBatch (s : Session σ ρ) (rs : List ρ) :
    Session σ ρ × Except SearchError (List ρ × Nat) :=
  s.write fun w => w.saveBatch s.store s.generator s.ids rs

/-- Deletes what has the identity of a record. -/
def delete (s : Session σ ρ) (r : ρ) : Session σ ρ × Except SearchError Bool :=
  s.useWriter fun w => w.delete s.store r

/-- Deletes what has an identity. -/
def deleteById (s : Session σ ρ) (id : RecordId) : Session σ ρ × Except SearchError Bool :=
  s.useWriter fun w => w.deleteById s.store id

/-- Deletes all that is committed. -/
def clear (s : Session σ ρ) : Session σ ρ × Except SearchError Bool :=
  s.useWriter fun w => let (w, b) := w.clear; (w, .ok b)

/-- Commits what is pending. -/
def commit (s : Session σ ρ) : Session σ ρ × Except SearchError Unit :=
  s.useWriter fun w => (w.commit, .ok ())

/-- Gives up what is pending. -/
def rollback (s : Session σ ρ) : Session σ ρ × Except SearchError Unit :=
  s.useWriter fun w => (w.rollback, .ok ())

/-- Merges the segments; also says how many there are then. -/
def optimize (s : Session σ ρ) : Session σ ρ × Except SearchError Nat :=
  s.useWriter fun w =>
    match w.optimize with
    | .ok w => (w, .ok w.index.segments.length)
    | .error e => (w, .error e)

/-- Asks for a second writer beside the first. -/
def secondWriter (s : Session σ ρ) : Session σ ρ × Except SearchError Unit :=
  s.useWriter fun w => (w, (s.store.writer w.index true).map fun _ => ())

/-- Gives the writer up, with what is pending. -/
def dropWriter (s : Session σ ρ) : Session σ ρ :=
  { s with pending := none }

/-- Lets a searcher work, which is made if there is none. -/
def useSearcher (s : Session σ ρ) (f : Searcher ρ → Except SearchError α) :
    Session σ ρ × Except SearchError α :=
  match s.searcher with
  | some x => (s, f x)
  | none =>
    match Searcher.ofStore s.type s.store s.index with
    | .ok x => ({ s with searcher := some x }, f x)
    | .error e => (s, .error e)

/-- Takes a new searcher. -/
def newSearcher (s : Session σ ρ) : Session σ ρ × Except SearchError Unit :=
  { s with searcher := none }.useSearcher fun _ => .ok ()

/-- Lets the searcher see what has been committed. -/
def refresh (s : Session σ ρ) : Session σ ρ × Except SearchError Unit :=
  match s.searcher with
  | none => s.newSearcher
  | some x =>
    match x.refresh s.index with
    | .ok x => ({ s with searcher := some x }, .ok ())
    | .error e => (s, .error e)

/-- Removes the list of the segments, as if someone else had done so. -/
def unlist (s : Session σ ρ) : Session σ ρ :=
  { s with index := { s.index with isListed := false } }

/-- Opens the store again, without a writer and without a searcher. -/
def reopen (s : Session σ ρ) (mode : OpenMode) (x : ConfigChange) :
    Session σ ρ × Except SearchError Unit :=
  let s := { s with pending := none, searcher := none }
  match Store.opened mode (s.store.config.change x) s.store.schema (some s.index) with
  | .ok (store, index) => ({ s with store, index }, .ok ())
  | .error e => (s, .error e)

end Session

end Catalog
