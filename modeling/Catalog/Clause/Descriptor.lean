import Catalog.Query.Expression.Meaning
import Catalog.Query.Wildcard
import Catalog.SearchError
import Catalog.Text.Regex.States

/-!
# Query descriptors

Clauses are compiled, one after the other, against the schema of a record type: all but the area
clause become the parts of a combination, and the area becomes a filter of its own.

## Main definitions

* `SearchScope`: what clauses are compiled against
* `SearchScope.clauseQuery`: the query of a clause that is not about an area
* `QueryDescriptor`, `SearchScope.build`: the compiled form of a list of clauses
* `SearchScope.freeText`: the query for words in any of several properties
* `SearchScope.sortKeys`: sort options with their fields
-/

namespace Catalog

/-- What clauses are compiled against: the bindings of a record type, and the fields and the
analyzer of a store. -/
structure SearchScope where
  /-- The name of the record type. -/
  record : String
  bindings : List Binding
  fields : List StoreField
  analyzer : Analyzer

/-- The words of a like clause: those of the text of an analyzed field, folded, and the whole of
any other. -/
def Binding.likeWords (b : Binding) (analyzer : Analyzer) (pattern : String) : List String :=
  if b.role == .analyzed then (words pattern).map analyzer.foldLiteral
  else [trim pattern].filter fun s => !s.isEmpty

/-- The query for terms of a field that a word with wildcards matches. -/
def wildcardQuery (field word : String) : Except SearchError Query :=
  let pattern := wildcardRegex word
  if (Regex.read? pattern).any Regex.hasFewStates then .ok (.regex field pattern)
  else .error (.pattern pattern)

/-- The query of a like clause. -/
def Binding.likeQuery (b : Binding) (analyzer : Analyzer) (pattern : String) :
    Except SearchError Query :=
  match b.likeWords analyzer pattern with
  | [] => .ok .empty
  | ws => (ws.mapM (wildcardQuery b.textField)).map .allOf

/-- The query of a fuzzy clause: each word on its own where a field is analyzed and there are only
words, the whole text otherwise. -/
def Binding.fuzzyQuery (b : Binding) (analyzer : Analyzer) (text : String) : Query :=
  let isAnalyzed := b.role == .analyzed
  let s := if isAnalyzed then analyzer.foldLiteral (trim text) else trim text
  if s.isEmpty then .empty
  else if isAnalyzed && (words s).all fun w => w.toList.all isAlphanumeric then
    .allOf ((words s).map fun w => .fuzzy b.textField w mostEdits)
  else .fuzzy b.textField s (editsFor s fuzzySimilarity)

/-- The error for a literal that is no value of a binding. -/
def Binding.invalidLiteral (b : Binding) (literal reason : String) : ClauseError :=
  .invalidLiteral b.field literal reason

/-- The value of a literal in the raw field of a binding. -/
def Binding.exactValue (b : Binding) (literal : String) : Except ClauseError Payload :=
  match b.kind with
  | .int => ((readInt64 (trim literal)).map .signed).mapError
      fun e => b.invalidLiteral literal e.message
  | .uint => ((readUInt64 (trim literal)).map .unsigned).mapError
      fun e => b.invalidLiteral literal e.message
  | .float => ((readDouble (trim literal)).map .double).mapError
      fun e => b.invalidLiteral literal e.message
  | .date =>
    match Moment.ofLiteral? (trim literal) with
    | some m => .ok (.text m.stamp)
    | none => .error (b.invalidLiteral literal "not a date")
  | .identity | .text | .geo | .structured => .ok (.text literal)

/-- A range that has both of its ends. -/
def Query.between (field : String) (lower upper : Payload) : Query :=
  .range field (.included lower) (.included upper)

/-- The query of a range clause. -/
def Binding.rangeQuery (b : Binding) (bounds : RangeBounds) : Except ClauseError Query :=
  match b.kind, bounds with
  | .int, .int lower upper => .ok (.between b.rawField (.signed lower) (.signed upper))
  | .uint, .int lower upper =>
    if 0 ≤ lower && 0 ≤ upper then
      .ok (.between b.rawField (.unsigned lower.toUInt64) (.unsigned upper.toUInt64))
    else .error (.rangeKind b.field b.kind)
  | .float, .double lower upper => .ok (.between b.rawField (.double lower) (.double upper))
  | .float, .int lower upper =>
    .ok (.between b.rawField (.double (.ofFloat (floatOfInt64 lower)))
      (.double (.ofFloat (floatOfInt64 upper))))
  | .date, .date lower upper =>
    .ok (.between b.rawField (.text lower.stamp) (.text upper.stamp))
  | k, _ => .error (.rangeKind b.field k)

/-- The area of a search with the fields that it reads. -/
structure SpatialFilter where
  area : SearchArea
  fields : SpatialFields

/-- The query that the bounding box of an area makes of it. -/
def SpatialFilter.query (f : SpatialFilter) : Query :=
  let box := f.area.boundingBox
  .allOf [.between f.fields.x (.double (.ofFloat box.minLon)) (.double (.ofFloat box.maxLon)),
    .between f.fields.y (.double (.ofFloat box.minLat)) (.double (.ofFloat box.maxLat))]

/-- The compiled form of a list of clauses. -/
structure QueryDescriptor where
  query : Option Query
  spatial : Option SpatialFilter

namespace QueryDescriptor

/-- Whether there is an area. -/
def isSpatial (d : QueryDescriptor) : Bool := d.spatial.isSome

/-- Whether there is nothing to search for. -/
def isEmpty (d : QueryDescriptor) : Bool := d.query.isNone && d.spatial.isNone

/-- The whole query: the combination of the clauses and the filter for the area. -/
def toQuery? (d : QueryDescriptor) : Option Query :=
  match d.query, d.spatial with
  | none, none => none
  | some q, none => some q
  | none, some f => some f.query
  | some q, some f => some (.allOf [q, f.query])

end QueryDescriptor

/-- The combination of parts; one that only excludes takes everything else. -/
def combinedQuery (parts : List (Occur × Query)) : Option Query :=
  if parts.isEmpty then none
  else if parts.all fun p => p.1 == .mustNot then some (.boolean (parts ++ [(.must, .all)]))
  else some (.boolean parts)

/-- A query that counts more or less, if a clause says so. -/
def Query.boosted (q : Query) : Option Float32 → Query
  | some factor => .boost q factor
  | none => q

/-- A property to sort by. -/
structure SortOption where
  property : String
  isDescending : Bool
  deriving DecidableEq, Repr

/-- A sort option with the field and the kind of its property. -/
structure SortKey where
  field : String
  kind : FieldKind
  isDescending : Bool
  deriving DecidableEq, Repr

/-- Whether a character stands between the words of a free text. -/
def isTextBreak (c : Char) : Bool :=
  isBlank c || c == '-'

namespace SearchScope

/-- The binding of a property. -/
def binding (scope : SearchScope) (property : String) : Except SearchError Binding :=
  match scope.bindings.find? fun b => b.property == property with
  | some b => .ok b
  | none => .error (.schema (.unknownProperty scope.record property))

/-- The query of a term clause: that of its expression, or else of the escaped text. -/
def termQuery (scope : SearchScope) (b : Binding) (text : String) : Except SearchError Query :=
  if isBlankText text then .ok .empty
  else
    let fields : FieldScope := ⟨scope.fields, scope.analyzer, b.textField⟩
    match Expression.query? fields text with
    | some q => .ok q
    | none =>
      match Expression.query? fields (escapeExpression text) with
      | some q => .ok q
      | none => .error .expression

/-- The query of a clause that is about the property of a binding. -/
def clauseQuery (scope : SearchScope) (b : Binding) : ClauseKind → Except SearchError Query
  | .term text => scope.termQuery b text
  | .like pattern => b.likeQuery scope.analyzer pattern
  | .fuzzy text => .ok (b.fuzzyQuery scope.analyzer text)
  | .exact literal => ((b.exactValue literal).map (.term b.rawField)).mapError .clause
  | .range bounds => (b.rangeQuery bounds).mapError .clause
  | .inArea _ => .error (.clause .duplicateArea)

/-- The filter for an area. -/
def spatialFilter (scope : SearchScope) (a : SearchArea) : Except SearchError SpatialFilter :=
  match scope.bindings.findSome? Binding.spatial? with
  | some fields => .ok ⟨a, fields⟩
  | none => .error (.schema (.noGeoField scope.record))

/-- What has been compiled of a list of clauses. -/
structure Compiled where
  parts : List (Occur × Query)
  spatial : Option SpatialFilter

/-- Compiles one more clause. -/
def compileClause (scope : SearchScope) (done : Compiled) (c : Clause) :
    Except SearchError Compiled :=
  match c.kind with
  | .inArea a =>
    if done.spatial.isSome then .error (.clause .duplicateArea)
    else (scope.spatialFilter a).map fun f => { done with spatial := some f }
  | kind => do
    let b ← scope.binding c.property
    let q ← scope.clauseQuery b kind
    return { done with parts := done.parts ++ [(c.occur, q.boosted c.boost)] }

/-- The compiled form of a list of clauses. -/
def build (scope : SearchScope) (clauses : List Clause) : Except SearchError QueryDescriptor :=
  (clauses.foldlM scope.compileClause ⟨[], none⟩).map fun done =>
    ⟨combinedQuery done.parts, done.spatial⟩

/-- The query for records that have, in one of some properties, what begins with one of the words of
a text. Nothing is searched for without words or without properties. -/
def freeText (scope : SearchScope) (text : String) (properties : List String) :
    Except SearchError (Option Query) :=
  let ws := (wordsBy isTextBreak text.toList).map fun w => scope.analyzer.foldLiteral (.ofList w)
  if ws.isEmpty || properties.isEmpty then .ok none
  else do
    let bs ← properties.mapM scope.binding
    let qs ← ws.mapM fun w => (bs.mapM fun b => wildcardQuery b.textField w).map .anyOf
    return some (.anyOf qs)

/-- The key of a sort option. -/
def sortKey (scope : SearchScope) (o : SortOption) : Except SearchError SortKey :=
  (scope.binding o.property).map fun b => ⟨b.rawField, b.kind, o.isDescending⟩

/-- The keys of sort options. -/
def sortKeys (scope : SearchScope) (options : List SortOption) :
    Except SearchError (List SortKey) :=
  options.mapM scope.sortKey

end SearchScope

end Catalog
