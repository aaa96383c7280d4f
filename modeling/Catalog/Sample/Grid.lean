import Catalog.Document

/-!
# Grids and lines of a log

Two record types at the edges of what can be kept: grids, whose cells have no JSON text unless there
are none, and lines of a log, which have no identity.

## Main definitions

* `Grid.recordType`: grids
* `LogLine.recordType`: lines of a log
-/

namespace Catalog

/-- Numbers by row and column, in ascending order of the places. -/
structure Cells where
  entries : List ((Int32 × Int32) × Int32)

/-- Pairs of numbers are no names of members, so only a grid without cells is written or read. -/
instance : JsonData Cells where
  toJson? c := if c.entries.isEmpty then some (.object []) else none
  ofJson?
    | .object [] => some ⟨[]⟩
    | _ => none

/-- A grid of numbers. -/
structure Grid where
  id : Option RecordId
  cells : Structured Cells
  label : String

/-- The description of grids. -/
def Grid.recordType : RecordType Grid where
  name := "grids"
  blank := ⟨none, ⟨⟨[]⟩⟩, ""⟩
  declarations := [
    .analyzed "id" Grid.id fun r v => { r with id := v },
    .field "cells" Grid.cells fun r v => { r with cells := v },
    .field "label" Grid.label fun r v => { r with label := v }]

/-- A line of a log. -/
structure LogLine where
  text : String
  level : Int64

/-- The description of lines of a log. -/
def LogLine.recordType : RecordType LogLine where
  name := "LogLine"
  blank := ⟨"", 0⟩
  declarations := [
    .analyzed "text" LogLine.text fun r v => { r with text := v },
    .field "level" LogLine.level fun r v => { r with level := v }]

end Catalog
