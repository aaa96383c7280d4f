import Catalog.Query.Basic

/-!
# Search expressions

What a term clause holds is an expression of a small language: words and phrases, alone or with the
name of a field in front, ranges and sets, signs, the junctions `AND` and `OR` and groups in
parentheses.

## Main definitions

* `Expression`: the expressions
* `Expression.withDefaultField`: names the field of a group for the parts that name none
* `Expression.joined`: the expression of parts with junctions between them
-/

namespace Catalog

/-- An end of a range as it was written. -/
inductive WrittenEnd where
  | included (text : String)
  | excluded (text : String)
  | unbounded
  deriving DecidableEq, Repr

/-- An expression. Where a field is named, it is the name of a field of the index. -/
inductive Expression where
  /-- A word or a phrase; `isOpen` says that it may go on. -/
  | literal (field : Option String) (text : String) (slop : Nat) (isOpen : Bool)
  /-- Every document. -/
  | all
  | range (field : Option String) (lower upper : WrittenEnd)
  | set (field : Option String) (elements : List String)
  /-- Documents that have a field at all. -/
  | present (field : String)
  | boost (expression : Expression) (factor : Float)
  | clause (parts : List (Option Occur × Expression))

/-- What stands between two parts. -/
inductive Junction where
  | and
  | or
  deriving DecidableEq, Repr

namespace Expression

/-- A part that must not match. -/
def negated (e : Expression) : Expression :=
  .clause [(some .mustNot, e)]

/-- Names the field of a leaf. -/
def withField (field : Option String) : Expression → Expression
  | .literal _ s slop isOpen => .literal field s slop isOpen
  | .range _ lower upper => .range field lower upper
  | .set _ elements => .set field elements
  | .present f => .present (field.getD f)
  | e => e

mutual

/-- Names the field of the parts that name none. Every document means those with the field then. -/
def withDefaultField (field : String) : Expression → Expression
  | .literal none s slop isOpen => .literal (some field) s slop isOpen
  | .range none lower upper => .range (some field) lower upper
  | .set none elements => .set (some field) elements
  | .all => .present field
  | .boost e factor => .boost (withDefaultField field e) factor
  | .clause parts => .clause (partsWithDefaultField field parts)
  | e => e

/-- The same for the parts of a clause. -/
def partsWithDefaultField (field : String) :
    List (Option Occur × Expression) → List (Option Occur × Expression)
  | [] => []
  | (o, e) :: r => (o, withDefaultField field e) :: partsWithDefaultField field r

end

/-- How a part without a sign takes part, by the junctions before and after it. -/
def defaultOccur : Option Junction → Option Junction → Option Occur
  | some .and, _ => some .must
  | _, some .and => some .must
  | some .or, _ => some .should
  | none, some .or => some .should
  | none, none => none

/-- A part with the junction before it and its sign. -/
abbrev JoinedPart := Option Junction × Option Occur × Expression

/-- A part with its sign, or else with how the junctions around it let it take part. An alternative
with a minus sign stays an alternative: to what must not match. -/
def signedPart (sign : Option Occur) (default : Option Occur) (e : Expression) :
    Option Occur × Expression :=
  match sign, default with
  | some .mustNot, some .should => (some .should, e.negated)
  | _, _ => (sign <|> default, e)

/-- The groups of parts that `and` holds together. -/
def groups : List JoinedPart → List (List (Option Occur × Expression))
  | [] => []
  | (before, sign, e) :: r =>
    let after := (r.head?.map fun p => p.1).join
    let part := signedPart sign (defaultOccur before after) e
    match after, groups r with
    | some .and, g :: gs => (part :: g) :: gs
    | _, gs => [part] :: gs

/-- A group as a part of an expression of several groups. -/
def groupPart : List (Option Occur × Expression) → Option Occur × Expression
  | [part] => part
  | g => (some .should, .clause g)

/-- The expression of parts with junctions between them. -/
def joined (parts : List JoinedPart) : Expression :=
  match groups parts with
  | [[(some .mustNot, e)]] => e.negated
  | [[(_, e)]] => e
  | [g] => .clause g
  | gs => .clause (gs.map groupPart)

/-- A part without a sign that holds a single part is that part. -/
def flattenPart : Option Occur × Expression → Option Occur × Expression
  | (none, .clause [part]) => part
  | part => part

/-- Takes needless groups off the parts of an expression. -/
def flattened : Expression → Expression
  | .clause parts => .clause (parts.map flattenPart)
  | e => e

end Expression

end Catalog
