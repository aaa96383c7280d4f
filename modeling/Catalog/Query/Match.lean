import Catalog.Query.Basic
import Catalog.Query.Entry
import Catalog.StableSort
import Catalog.Text.Regex

/-!
# Matching

Which entries a query matches. How well they match is another matter and does not change whether
they do.

## Main definitions

* `Query.accepts`: whether a query matches an entry
* `combine`: whether a combination matches, given the verdicts of its parts
* `phraseCount`: how often a phrase occurs whose terms may drift apart
-/

namespace Catalog

/-- Whether a combination matches, given which of its parts do: all required parts have to, no
excluded one may, and without a required part an optional one has to. -/
def combine (verdicts : List (Occur × Bool)) : Bool :=
  let required := verdicts.filter fun v => v.1 == .must
  let optional := verdicts.filter fun v => v.1 == .should
  let excluded := verdicts.filter fun v => v.1 == .mustNot
  required.all Prod.snd && !excluded.any Prod.snd &&
    (!required.isEmpty || optional.any Prod.snd)

/-- Whether a value is not below the lower end of a range. -/
def RangeEnd.admitsAbove (lower : RangeEnd) (v : Payload) : Bool :=
  match lower with
  | .included a => a.compare v != .gt
  | .excluded a => a.compare v == .lt
  | .unbounded => true

/-- Whether a value is not above the upper end of a range. -/
def RangeEnd.admitsBelow (upper : RangeEnd) (v : Payload) : Bool :=
  match upper with
  | .included b => v.compare b != .gt
  | .excluded b => v.compare b == .lt
  | .unbounded => true

/-- Where a phrase would begin, seen from a place of one of its terms. -/
def PlacedTerm.origins (t : PlacedTerm) (places : List Nat) : List Int :=
  places.map fun (p : Nat) => (p : Int) - t.place

/-- A beginning of a phrase, and how far the terms so far have drifted apart. -/
structure Stand where
  origin : Int
  drift : Nat
  deriving DecidableEq

/-- The drift if a further term has a beginning of its own. -/
def Stand.driftTo (s : Stand) (origin : Int) : Nat :=
  s.drift + (s.origin - origin).natAbs

/-- Pairs beginnings of the terms so far with those of a further term, from left to right. Each
takes part once; of several beginnings up to that of the term the last one does. -/
def standPairs (slop : Nat) : List Stand → List Int → List (Stand × Int)
  | s :: stands, o :: origins =>
    if s.driftTo o ≤ slop then
      if stands.head?.any fun t => t.origin ≤ o && t.driftTo o ≤ slop then
        standPairs slop stands (o :: origins)
      else (s, o) :: standPairs slop stands origins
    else if s.origin < o then standPairs slop stands (o :: origins)
    else standPairs slop (s :: stands) origins
  | _, _ => []
termination_by stands origins => stands.length + origins.length

/-- Either beginning of a pair may be that of the phrase. -/
def Stand.merge (s : Stand) (o : Int) : List Stand :=
  if s.origin = o then [⟨o, s.driftTo o⟩]
  else [⟨min s.origin o, s.driftTo o⟩, ⟨max s.origin o, s.driftTo o⟩]

/-- How often further terms, given by their beginnings, go on from beginnings of a phrase. -/
def continuations (slop : Nat) (stands : List Stand) : List (List Int) → Nat
  | [] => stands.length
  | [last] => (standPairs slop stands last).length
  | origins :: rest =>
    continuations slop ((standPairs slop stands origins).flatMap fun p => p.1.merge p.2) rest

/-- The number of times that a phrase occurs, given the beginnings by each of its terms. -/
def phraseCount (slop : Nat) : List (List Int) → Nat
  | [] => 0
  | first :: rest => continuations slop (first.map fun o => ⟨o, 0⟩) rest

/-- The terms of a phrase, the rarest among some entries first. -/
def rarestFirst (among : List Entry) (field : String) (terms : List PlacedTerm) :
    List PlacedTerm :=
  let count (t : PlacedTerm) := among.countP fun e => (e.terms field).contains (.text t.text)
  stableSort (fun a b => count a ≤ count b) terms

/-- The number of times that an entry has a phrase. The terms are looked at in the order of their
rarity among the entries of the segment, which matters where more than two terms drift apart. -/
def Entry.phraseCount (e : Entry) (among : List Entry) (field : String) (terms : List PlacedTerm)
    (slop : Nat) : Nat :=
  Catalog.phraseCount slop
    ((rarestFirst among field terms).map fun t => t.origins (e.places field t.text))

/-- How many of the terms with a common beginning are looked for. -/
def mostExpansions : Nat := 50

/-- The first terms among some entries that begin with a text. -/
def expansions (among : List Entry) (field start : String) : List String :=
  let found := among.flatMap fun e => (e.terms field).filterMap fun
    | .text s => if start.toList.isPrefixOf s.toList then some s else none
    | _ => none
  (stableSort (fun a b => a ≤ b) found.eraseDups).take mostExpansions

/-- Whether an entry has a phrase whose last term may go on. -/
def Entry.hasPhraseStart (e : Entry) (among : List Entry) (field : String)
    (terms : List PlacedTerm) (last : PlacedTerm) : Bool :=
  let origins := terms.map fun t => t.origins (e.places field t.text)
  (expansions among field last.text).any fun s =>
    0 < Catalog.phraseCount 0 (origins ++ [last.origins (e.places field s)])

namespace Query

mutual

/-- Whether a query matches an entry, given all entries of its segment. -/
def accepts (among : List Entry) (e : Entry) : Query → Bool
  | .empty => false
  | .all => true
  | .term f v => (e.terms f).contains v
  | .phrase f terms slop => 0 < e.phraseCount among f terms slop
  | .phraseStart f terms last => e.hasPhraseStart among f terms last
  | .anyTerm f values => (e.terms f).any values.contains
  | .regex f pattern =>
    match Regex.read? pattern with
    | some x => (e.terms f).any fun t => (t.characters?.map x.accepts).getD false
    | none => false
  | .fuzzy f s edits => (e.terms f).any (Payload.isWithinEdits edits s)
  | .range f lower upper =>
    (e.terms f).any fun t => lower.admitsAbove t && upper.admitsBelow t
  | .boost q _ => accepts among e q
  | .boolean parts => combine (verdicts among e parts)

/-- Which parts of a combination match an entry. -/
def verdicts (among : List Entry) (e : Entry) : List (Occur × Query) → List (Occur × Bool)
  | [] => []
  | (o, q) :: r => (o, accepts among e q) :: verdicts among e r

end

end Query

end Catalog
