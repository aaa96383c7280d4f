import Catalog.Area
import Catalog.Query.Basic

/-!
# Clauses

A search is a list of clauses. Each asks for something of one property of the records; an area
clause asks for the place instead.

## Main definitions

* `Clause`, `ClauseKind`: the clauses
* `ClauseError`: why a clause asks for nothing that there could be
* `areaKind`: an area clause, if its radius is one
-/

namespace Catalog

/-- A range of values with both ends. -/
inductive RangeBounds where
  | int (lower upper : Int64)
  | double (lower upper : Double)
  | date (lower upper : Moment)

/-- What a clause asks for. -/
inductive ClauseKind where
  /-- An expression of the search language. -/
  | term (text : String)
  /-- The beginning of a value, or a pattern with wildcards. -/
  | like (pattern : String)
  /-- A text that is off by some edits. -/
  | fuzzy (text : String)
  /-- Just this value. -/
  | exact (literal : String)
  | range (bounds : RangeBounds)
  /-- A place in an area. -/
  | inArea (area : SearchArea)

/-- A clause. -/
structure Clause where
  /-- The property that the clause is about; an area clause leaves it out. -/
  property : String
  kind : ClauseKind
  boost : Option Float32 := none
  occur : Occur := .must

/-- Whether a clause asks for an area. -/
def Clause.isArea (c : Clause) : Bool :=
  match c.kind with
  | .inArea _ => true
  | _ => false

/-- Why a clause asks for nothing that there could be. -/
inductive ClauseError where
  | duplicateArea
  | invalidRadius (km : Float)
  | invalidLiteral (field literal reason : String)
  | rangeKind (field : String) (kind : FieldKind)

/-- The text of an error. -/
def ClauseError.message : ClauseError → String
  | .duplicateArea => "A search request may contain at most one area clause"
  | .invalidRadius km =>
    "Area radius must be a positive number of kilometres, got " ++ formatFloat km
  | .invalidLiteral field literal reason =>
    "Invalid literal '" ++ literal ++ "' for field " ++ field ++ ": " ++ reason
  | .rangeKind field kind =>
    "Range over field " ++ field ++ " does not match its declared type " ++ kind.name

/-- What an area clause asks for, if its radius is one. -/
def areaKind (center : GeoPoint) (radiusKm : Float) : Except ClauseError ClauseKind :=
  match SearchArea.ofRadius? center radiusKm with
  | some a => .ok (.inArea a)
  | none => .error (.invalidRadius radiusKm)

end Catalog
