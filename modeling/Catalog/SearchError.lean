import Catalog.Clause.Basic
import Catalog.Schema.Binding
import Catalog.Text.Analyzer

/-!
# Errors of stores and searches

Everything that may go wrong between a store and those who write to it and search it.

## Main definitions

* `SearchError`, `SearchError.message?`: the errors and their texts
-/

namespace Catalog

/-- Why an index does not have the fields that a record type needs. -/
inductive FieldMismatch where
  | missing (path field : String)
  | type (path field record : String) (found expected : StoreType)
  deriving DecidableEq, Repr

/-- The text of a mismatch. -/
def FieldMismatch.message : FieldMismatch → String
  | .missing path field => "index at " ++ path ++ " has no field " ++ field
  | .type path field record found expected =>
    "field " ++ field ++ " at " ++ path ++ " holds " ++ found.name ++ ", " ++ record ++
      " expects " ++ expected.name

/-- An error of a store or a search. -/
inductive SearchError where
  | schema (cause : SchemaError)
  | codec (cause : CodecError)
  | clause (cause : ClauseError)
  | analysis (cause : AnalysisError)
  /-- A text is no expression, not even with everything in it escaped. -/
  | expression
  /-- A pattern needs too many states to be looked for. -/
  | pattern (text : String)
  /-- There is no index to open. -/
  | unavailable (name path : String)
  | mismatch (cause : FieldMismatch)
  | noField (field index : String)
  /-- A writer has too little or too much memory. -/
  | writerMemory
  /-- Another writer is at work. -/
  | writerBusy
  /-- A field is not cut into terms. -/
  | notAnalyzed (field : String)
  /-- The list of the segments of an index is gone. -/
  | unlisted
  /-- The threads of a writer have died. -/
  | stopped

/-- The text of an error, where it has one of its own. -/
def SearchError.message? : SearchError → Option String
  | .schema e => some ("Schema error: " ++ e.message)
  | .codec e => some ("Codec error: " ++ e.message)
  | .clause e => some ("Query error: " ++ e.message)
  | .analysis e => some ("Analysis error: " ++ e.message)
  | .unavailable name path => some ("The index " ++ name ++ " was not found at path " ++ path)
  | .mismatch e => some ("Schema mismatch: " ++ e.message)
  | .noField field index =>
    some ("Schema mismatch: no field " ++ field ++ " in index " ++ index)
  | .expression | .pattern _ | .writerMemory | .writerBusy | .notAnalyzed _ | .unlisted |
    .stopped => none

end Catalog
