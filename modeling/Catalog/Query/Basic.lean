import Catalog.Field.Value
import Catalog.Text.Printable

/-!
# Queries

A query says which documents are wanted. Its leaves look at one field each; a boolean query
combines others, and a boost changes how much one of them counts.

## Main definitions

* `Query`: the queries, `Occur`: how one takes part in a combination
* `Payload.compare`: the order of the values of one type
* `Query.text`: a query as a text, its fields by number
-/

namespace Catalog

/-- How a query takes part in a combination. -/
inductive Occur where
  | must
  | should
  | mustNot
  deriving DecidableEq, Repr

/-- The name of a part in texts of queries. -/
def Occur.name : Occur → String
  | .must => "Must"
  | .should => "Should"
  | .mustNot => "MustNot"

/-- An end of a range of values. -/
inductive RangeEnd where
  | included (value : Payload)
  | excluded (value : Payload)
  | unbounded
  deriving DecidableEq

/-- A term and the place that it takes in a phrase. -/
structure PlacedTerm where
  place : Nat
  text : String
  deriving DecidableEq, Repr

/-- A query. -/
inductive Query where
  /-- No document. -/
  | empty
  /-- Every document. -/
  | all
  /-- Documents with a term. -/
  | term (field : String) (value : Payload)
  /-- Documents with terms one after the other; `slop` is how far they may drift apart. -/
  | phrase (field : String) (terms : List PlacedTerm) (slop : Nat)
  /-- The same, where the last term may go on. -/
  | phraseStart (field : String) (terms : List PlacedTerm) (last : PlacedTerm)
  /-- Documents with one of some terms. -/
  | anyTerm (field : String) (values : List Payload)
  /-- Documents with a term that an expression matches. -/
  | regex (field : String) (pattern : String)
  /-- Documents with a term that some edits turn into a text. -/
  | fuzzy (field : String) (text : String) (edits : Nat)
  /-- Documents with a term in a range. -/
  | range (field : String) (lower upper : RangeEnd)
  | boost (query : Query) (factor : Float32)
  | boolean (parts : List (Occur × Query))

/-- The order of two values of one type: numbers by size, floating-point values in their total
order, texts by their characters. Values of different types are not told apart. -/
def Payload.compare : Payload → Payload → Ordering
  | .text a, .text b => Ord.compare a b
  | .signed a, .signed b => Ord.compare a.toInt b.toInt
  | .unsigned a, .unsigned b => Ord.compare a.toNat b.toNat
  | .double a, .double b => Ord.compare a.order b.order
  | _, _ => .eq

/-- How many of the optional parts of a combination have to match: one if it has no other. -/
def neededShoulds (parts : List (Occur × Query)) : Nat :=
  if !parts.isEmpty && parts.all (fun p => p.1 == .should) then 1 else 0

namespace Query

/-- The conjunction of queries. -/
def allOf (queries : List Query) : Query :=
  .boolean (queries.map (Occur.must, ·))

/-- The disjunction of queries. -/
def anyOf (queries : List Query) : Query :=
  .boolean (queries.map (Occur.should, ·))

/-- The number of a field: its position among the fields of the index. -/
def fieldNumber (fields : List String) (field : String) : String :=
  toString (fields.idxOf field)

/-- A term with the number of its field. -/
def termText (fields : List String) (field : String) (value : Payload) : String :=
  "Term(field=" ++ fieldNumber fields field ++ ", type=" ++ value.type.name ++ ", " ++
    (match value with
    | .text s => quoted s
    | .signed n => toString n.toInt
    | .unsigned n => toString n.toNat
    | .double x => x.formatPointed) ++ ")"

/-- A term with its place in a phrase. -/
def placedText (fields : List String) (field : String) (t : PlacedTerm) : String :=
  "(" ++ toString t.place ++ ", " ++ termText fields field (.text t.text) ++ ")"

/-- An end of a range. -/
def endText (fields : List String) (field : String) : RangeEnd → String
  | .included v => "Included(" ++ termText fields field v ++ ")"
  | .excluded v => "Excluded(" ++ termText fields field v ++ ")"
  | .unbounded => "Unbounded"

/-- Texts with commas between them. -/
def listText (items : List String) : String :=
  "[" ++ ", ".intercalate items ++ "]"

/-- A named list of named parts. -/
def structureText (name : String) (parts : List (String × String)) : String :=
  name ++ " \x7b " ++ ", ".intercalate (parts.map fun p => p.1 ++ ": " ++ p.2) ++ " \x7d"

/-- The number of a field, as a part of a text. -/
def fieldText (fields : List String) (field : String) : String :=
  "Field(" ++ fieldNumber fields field ++ ")"

mutual

/-- The text of a query over an index with the given fields. -/
def text (fields : List String) : Query → String
  | .empty => "EmptyQuery"
  | .all => "AllQuery"
  | .term f v => "TermQuery(" ++ termText fields f v ++ ")"
  | .phrase f terms slop =>
    structureText "PhraseQuery" [("field", fieldText fields f),
      ("phrase_terms", listText (terms.map (placedText fields f))), ("slop", toString slop)]
  | .phraseStart f terms last =>
    structureText "PhrasePrefixQuery" [("field", fieldText fields f),
      ("phrase_terms", listText (terms.map (placedText fields f))),
      ("prefix", placedText fields f last), ("max_expansions", "50")]
  | .anyTerm f values =>
    let terms := fieldText fields f ++ ": " ++ listText (values.map (termText fields f))
    structureText "TermSetQuery" [("terms_map",
      "\x7b" ++ (if values.isEmpty then "" else terms) ++ "\x7d")]
  | .regex f pattern =>
    structureText "RegexQuery" [("regex", "Regex(" ++ quoted pattern ++ ")"),
      ("field", fieldText fields f)]
  | .fuzzy f s edits =>
    structureText "FuzzyTermQuery" [("term", termText fields f (.text s)),
      ("distance", toString edits), ("transposition_cost_one", "true"), ("prefix", "false")]
  | .range f lower upper =>
    structureText "RangeQuery" [("bounds", structureText "BoundsRange" [
      ("lower_bound", endText fields f lower), ("upper_bound", endText fields f upper)])]
  | .boost q factor =>
    "Boost(query=" ++ text fields q ++ ", boost=" ++ (Single.mk factor.toBits).format ++ ")"
  | .boolean parts =>
    structureText "BooleanQuery" [("subqueries", listText (partTexts fields parts)),
      ("minimum_number_should_match", toString (neededShoulds parts))]

/-- The texts of the parts of a combination. -/
def partTexts (fields : List String) : List (Occur × Query) → List String
  | [] => []
  | (o, q) :: r => ("(" ++ o.name ++ ", " ++ text fields q ++ ")") :: partTexts fields r

end

end Query

end Catalog
