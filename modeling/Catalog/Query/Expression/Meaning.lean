import Catalog.Query.Entry
import Catalog.Query.Expression.Reader
import Catalog.StableSort

/-!
# The meaning of search expressions

An expression is given a meaning over the fields of an index. Not every expression has one: fields
have to exist and to be indexed, numbers have to be numbers, a range needs the name of its field,
and something has to be asked for besides what must not match. Words that the analyzer drops leave
nothing behind.

## Main definitions

* `FieldScope`: the fields that an expression may name, and the one for parts that name none
* `Meaning`: a query that may have empty parts
* `Expression.meaning?`: the meaning of an expression
* `Expression.query?`: the query of a text
-/

namespace Catalog

/-- The fields that an expression may name. -/
structure FieldScope where
  fields : List StoreField
  analyzer : Analyzer
  /-- The field of parts that name none. -/
  defaultField : String

/-- A query that may have empty parts. -/
inductive Meaning where
  | leaf (query : Query)
  | boost (meaning : Meaning) (factor : Float32)
  | clause (parts : List (Occur × Meaning))

namespace Meaning

mutual

/-- Whether nothing is asked for but what must not match. -/
def isNegative : Meaning → Bool
  | .leaf _ => false
  | .boost m _ => isNegative m
  | .clause parts => arePartsNegative parts

/-- The same for the parts of a clause. -/
def arePartsNegative : List (Occur × Meaning) → Bool
  | [] => true
  | (o, m) :: r => (o == .mustNot || isNegative m) && arePartsNegative r

end

mutual

/-- The query without the empty parts; nothing if there is nothing else. -/
def query? : Meaning → Option Query
  | .leaf q => some q
  | .boost m factor => some (.boost ((query? m).getD .empty) factor)
  | .clause parts =>
    match partQueries parts with
    | [] => none
    | queries => some (.boolean queries)

/-- The queries of the parts that are not empty. -/
def partQueries : List (Occur × Meaning) → List (Occur × Query)
  | [] => []
  | (o, m) :: r => ((query? m).map (o, ·)).toList ++ partQueries r

end

/-- A meaning as parts of a clause in which it takes part: the parts of a clause whose parts all
take part in the same way, and otherwise itself. -/
def raised (o : Occur) : Meaning → List (Occur × Meaning)
  | .clause parts =>
    if o != .mustNot && parts.all fun p => p.1 == o then parts else [(o, .clause parts)]
  | m => [(o, m)]

mutual

/-- The same with the parts of inner clauses raised where that changes nothing. -/
def simplified : Meaning → Meaning
  | .clause parts => .clause (simplifiedParts parts)
  | m => m

/-- The simplified parts of a clause. -/
def simplifiedParts : List (Occur × Meaning) → List (Occur × Meaning)
  | [] => []
  | (o, m) :: r => raised o (simplified m) ++ simplifiedParts r

end

/-- A meaning that counts more or less; a factor of one changes nothing. -/
def boosted (m : Meaning) (factor : Float) : Meaning :=
  let x := narrow factor
  if Float32.abs (x - 1) < 1.1920929e-7 then m else .boost m x

/-- Whether a whole expression may mean this: empty, or something besides negations. -/
def isPositive : Meaning → Bool
  | .clause [] => true
  | m => !m.isNegative

end Meaning

/-- The terms of a text in a text field. -/
def StoreField.textTerms (f : StoreField) (analyzer : Analyzer) (s : String) : List PlacedTerm :=
  match f.indexing with
  | .none => []
  | .whole => [⟨0, s⟩]
  | .words => (analyzer.tokens s).map fun t => ⟨t.position, t.text⟩

/-- The value of a text in a field, where it has to be a single one. -/
def StoreField.value? (f : StoreField) (analyzer : Analyzer) (s : String) : Option Payload :=
  if f.indexing == .none then none
  else match f.type with
  | .signed => (readInt64 s).toOption.map .signed
  | .unsigned => (readUInt64 s).toOption.map .unsigned
  | .double => (readDouble s).toOption.map .double
  | .text =>
    match f.textTerms analyzer s with
    | [t] => some (.text t.text)
    | _ => none

/-- The meaning of a word or a phrase in a field. -/
def StoreField.literal? (f : StoreField) (analyzer : Analyzer) (s : String) (slop : Nat)
    (isOpen : Bool) : Option Meaning :=
  if f.type != .text || f.indexing == .none then
    (f.value? analyzer s).map fun v => .leaf (.term f.name v)
  else
    match f.textTerms analyzer s with
    | [] => if isOpen then none else some (.clause [])
    | [t] => if isOpen then none else some (.leaf (.term f.name (.text t.text)))
    | terms =>
      match isOpen, terms.getLast? with
      | true, some last => some (.leaf (.phraseStart f.name terms.dropLast last))
      | _, _ => some (.leaf (.phrase f.name terms slop))

/-- The end of a range in a field. -/
def StoreField.rangeEnd? (f : StoreField) (analyzer : Analyzer) : WrittenEnd → Option RangeEnd
  | .included s => (f.value? analyzer s).map .included
  | .excluded s => (f.value? analyzer s).map .excluded
  | .unbounded => some .unbounded

/-- Values in ascending order, each once. -/
def sortedValues (l : List Payload) : List Payload :=
  (stableSort (fun a b => a.compare b != .gt) l).eraseDups

namespace FieldScope

/-- What stands before and behind each dot, the last dot first. A backslash takes the meaning from
the character behind it. -/
def dotted : List Char → List (List Char × List Char)
  | '\\' :: c :: r => (dotted r).map fun p => ('\\' :: c :: p.1, p.2)
  | c :: r =>
    (dotted r).map (fun p => (c :: p.1, p.2)) ++ if c == '.' then [([], r)] else []
  | [] => []

/-- The field of a name. A dot may stand behind the name of a field; what a longer name finds behind
the dot is not indexed. -/
def field? (scope : FieldScope) (name : String) : Option StoreField :=
  let named (s : String) := scope.fields.find? fun f => f.name == s
  named name <|> (dotted name.toList).findSome? fun p =>
    (named (.ofList p.1)).map fun f => if p.2.isEmpty then f else { f with indexing := .none }

end FieldScope

namespace Expression

mutual

/-- The meaning of an expression, if it has one. -/
def meaning? (scope : FieldScope) : Expression → Option Meaning
  | .literal field s slop isOpen => do
    let f ← scope.field? (field.getD scope.defaultField)
    f.literal? scope.analyzer s slop isOpen
  | .all => some (.leaf .all)
  | .range field lower upper => do
    let f ← scope.field? (← field)
    match ← f.rangeEnd? scope.analyzer lower, ← f.rangeEnd? scope.analyzer upper with
    | .unbounded, .unbounded => return .clause []
    | l, u => return .leaf (.range f.name l u)
  | .set field elements => do
    let f ← scope.field? (← field)
    return .leaf (.anyTerm f.name (sortedValues (← elements.mapM (f.value? scope.analyzer))))
  | .present _ => none
  | .boost e factor => (meaning? scope e).map (·.boosted factor)
  | .clause parts => (partMeanings? scope parts).map .clause

/-- The meanings of the parts of a clause. A part without a sign is an optional one. -/
def partMeanings? (scope : FieldScope) :
    List (Option Occur × Expression) → Option (List (Occur × Meaning))
  | [] => some []
  | (o, e) :: r => do
    let m ← meaning? scope e
    return (o.getD .should, m) :: (← partMeanings? scope r)

end

/-- The query of a text, if the text is an expression that means something. -/
def query? (scope : FieldScope) (s : String) : Option Query := do
  let m ← (← read? s).meaning? scope
  if m.isPositive then return (m.simplified.query?.getD .empty) else none

end Expression

end Catalog
