import Catalog.Paging
import Catalog.Search.Ranking
import Catalog.Store.Basic

/-!
# Searching a store

A searcher sees a store as it was when the searcher was made or last refreshed. What it finds is
decoded into records page by page; an area search tells each record its distance.

## Main definitions

* `Searcher`: a store and what is seen of it
* `Searcher.search`: records by clauses
* `Searcher.searchText`: records by the words of a text
* `Searcher.allPaged`: all records
* `SearchRequest`: a search that is put together step by step
-/

namespace Catalog

/-- A found record, with its distance if there is an area. -/
structure Hit (ρ : Type) where
  record : ρ
  distanceKm : Option Float

/-- A page of found records. The total is the number of found records, or the number of pages where
all records are listed. -/
structure ResultPage (ρ : Type) where
  hits : List (Hit ρ)
  total : Nat

/-- The page of a search for nothing. -/
def ResultPage.empty {ρ : Type} : ResultPage ρ := ⟨[], 0⟩

/-- The records of a page. -/
def ResultPage.records {ρ : Type} (p : ResultPage ρ) : List ρ :=
  p.hits.map Hit.record

/-- A store and what is seen of it. -/
structure Searcher (ρ : Type) where
  type : RecordType ρ
  store : Store ρ
  snapshot : Snapshot

namespace Searcher

variable {ρ : Type}

/-- The searcher of a store, if its index is there. -/
def ofStore (R : RecordType ρ) (s : Store ρ) (i : Index) : Except SearchError (Searcher ρ) :=
  if i.isListed then .ok ⟨R, s, i.snapshot⟩ else .error (.unavailable s.name s.path)

/-- Sees what has been committed since. -/
def refresh (x : Searcher ρ) (i : Index) : Except SearchError (Searcher ρ) :=
  if i.isListed then .ok { x with snapshot := i.snapshot } else .error .unlisted

/-- The number of records. -/
def count (x : Searcher ρ) : Nat := x.snapshot.size

/-- The record of a candidate. It is read from the whole document, of which what is stored is as
good (`Store.IsBuiltFor.ofDocument_kept`). -/
def decode (x : Searcher ρ) (c : Candidate) : Except SearchError (Hit ρ) :=
  match x.store.schema.ofDocument x.type.blank c.document with
  | .error e => .error (.codec e)
  | .ok r =>
    match c.distanceKm with
    | some km => .ok ⟨x.type.setDistance r km, some km⟩
    | none => .ok ⟨r, none⟩

/-- A page of candidates as records. -/
def resultPage (x : Searcher ρ) (cs : List Candidate) (page : Int) (size : Nat) :
    Except SearchError (ResultPage ρ) :=
  let (window, total) := paginate cs page size
  (window.mapM x.decode).map fun hits => ⟨hits, total⟩

/-- The records that a list of clauses finds. -/
def search (x : Searcher ρ) (clauses : List Clause) (page : Int) (size : Nat)
    (sort : List SortOption) : Except SearchError (ResultPage ρ) := do
  let d ← x.store.scope.build clauses
  let keys ← x.store.scope.sortKeys sort
  match d.toQuery? with
  | none => return .empty
  | some q =>
    x.resultPage (x.snapshot.candidates q d.spatial keys x.store.config.maxResults) page size

/-- The record that has just this value of a property. -/
def searchByField (x : Searcher ρ) (property literal : String) :
    Except SearchError (Option ρ) :=
  (x.search [{ property, kind := .exact literal }] 1 1 []).map fun p => p.records.head?

/-- All records; the total is the number of pages. -/
def allPaged (x : Searcher ρ) (page : Int) (size : Nat) (sort : List SortOption) :
    Except SearchError (ResultPage ρ) := do
  let keys ← x.store.scope.sortKeys sort
  let p ← x.resultPage (x.snapshot.candidates .all none keys x.count) page size
  return { p with total := pageCount x.count size }

/-- The records that have the words of a text in some properties. -/
def searchText (x : Searcher ρ) (text : String) (properties : List String) (page : Int)
    (size : Nat) (sort : List SortOption) : Except SearchError (ResultPage ρ) := do
  let keys ← x.store.scope.sortKeys sort
  match ← x.store.scope.freeText text properties with
  | none => return .empty
  | some q =>
    x.resultPage (x.snapshot.candidates q none keys x.store.config.maxResults) page size

end Searcher

/-- A search that is put together step by step. -/
structure SearchRequest where
  clauses : List Clause
  page : Int
  pageSize : Nat
  sort : List SortOption

namespace SearchRequest

/-- A search for nothing yet, with the page size of a store. -/
def ofConfig (c : StoreConfig) : SearchRequest := ⟨[], 1, c.pageSize, []⟩

/-- Adds a clause. -/
def clause (q : SearchRequest) (c : Clause) : SearchRequest :=
  { q with clauses := q.clauses ++ [c] }

/-- Adds a clause that has to match. -/
def must (q : SearchRequest) (c : Clause) : SearchRequest :=
  q.clause { c with occur := .must }

/-- Adds a clause that may match. -/
def should (q : SearchRequest) (c : Clause) : SearchRequest :=
  q.clause { c with occur := .should }

/-- Adds a clause that must not match. -/
def mustNot (q : SearchRequest) (c : Clause) : SearchRequest :=
  q.clause { c with occur := .mustNot }

/-- Adds an area, of which there may be one. -/
def inArea (q : SearchRequest) (center : GeoPoint) (radiusKm : Float) :
    Except ClauseError SearchRequest :=
  if q.clauses.any Clause.isArea then .error .duplicateArea
  else (areaKind center radiusKm).map fun k => q.clause { property := "", kind := k }

/-- Adds a clause for just this value of a property. -/
def byId (q : SearchRequest) (property literal : String) : SearchRequest :=
  q.must { property, kind := .exact literal }

/-- Adds a property to sort by. -/
def sortBy (q : SearchRequest) (property : String) (isDescending : Bool) : SearchRequest :=
  { q with sort := q.sort ++ [⟨property, isDescending⟩] }

/-- The records that a request finds. -/
def run {ρ : Type} (q : SearchRequest) (x : Searcher ρ) : Except SearchError (ResultPage ρ) :=
  x.search q.clauses q.page q.pageSize q.sort

end SearchRequest

end Catalog
