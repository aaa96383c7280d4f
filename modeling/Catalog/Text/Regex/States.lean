import Catalog.Text.Regex

/-!
# States of an expression

Before a regular expression is looked for among the terms of an index, every state is worked out
that a reader of bytes may be in. An expression with too many of them is refused, so the cost of a
search stays bounded by the index. A state is the list of the places in the expression that the
bytes so far may have led to.

## Main definitions

* `RegexAtom.forms`: the bytes of the characters that an atom stands for
* `RegexPlace`, `Regex.step`: places and states, and what a byte makes of a state
* `Regex.hasFewStates`: whether an expression has so few states that it is looked for

## Implementation notes

The bytes of a character are told apart by the form that they belong to, even if what may follow is
the same for two forms. Bytes of one range lead from a state to the same state, so only those bytes
are tried at which a range begins or has ended.
-/

namespace Catalog

/-- A range of bytes. -/
structure ByteRange where
  least : Nat
  greatest : Nat
  deriving DecidableEq, Repr

/-- Whether a byte is in a range. -/
def ByteRange.contains (r : ByteRange) (b : Nat) : Bool :=
  r.least ≤ b && b ≤ r.greatest

/-- The bytes that continue a character. -/
def continuing : ByteRange := ⟨0x80, 0xBF⟩

/-- The forms of all characters but the line feed. -/
def dotForms : List (List ByteRange) := [
  [⟨0x00, 0x09⟩],
  [⟨0x0B, 0x7F⟩],
  [⟨0xC2, 0xDF⟩, continuing],
  [⟨0xE0, 0xE0⟩, ⟨0xA0, 0xBF⟩, continuing],
  [⟨0xE1, 0xEC⟩, continuing, continuing],
  [⟨0xED, 0xED⟩, ⟨0x80, 0x9F⟩, continuing],
  [⟨0xEE, 0xEF⟩, continuing, continuing],
  [⟨0xF0, 0xF0⟩, ⟨0x90, 0xBF⟩, continuing, continuing],
  [⟨0xF1, 0xF3⟩, continuing, continuing, continuing],
  [⟨0xF4, 0xF4⟩, ⟨0x80, 0x8F⟩, continuing, continuing]]

/-- The forms of the characters that an atom stands for: for each byte its range. -/
def RegexAtom.forms : RegexAtom → List (List ByteRange)
  | .char c => [(String.utf8EncodeChar c).map fun b => ⟨b.toNat, b.toNat⟩]
  | .dot => dotForms

/-- A place in an expression: in front of an item if no byte has been read, and otherwise within a
character of a form. Behind all items is the place at which the expression has matched. -/
structure RegexPlace where
  item : Nat
  form : Nat
  read : Nat
  deriving DecidableEq, Repr

/-- The places in front of the first of some items, and of those behind it that may be reached
without reading. -/
def startPlaces (item : Nat) : List RegexItem → List RegexPlace
  | [] => [⟨item, 0, 0⟩]
  | i :: items => ⟨item, 0, 0⟩ :: if i.starred then startPlaces (item + 1) items else []

namespace Regex

/-- The forms that a place is in, by number, with the ranges that are still to be read. -/
def due (x : Regex) (p : RegexPlace) : List (Nat × List ByteRange) :=
  match x.items[p.item]? with
  | some i =>
    let forms := i.atom.forms.zipIdx.filter fun (_, n) => p.read == 0 || n == p.form
    forms.map fun (ranges, n) => (n, ranges.drop p.read)
  | none => []

/-- The places behind a character of an item. -/
def placesBehind (x : Regex) (item : Nat) : List RegexPlace :=
  if x.items[item]?.any RegexItem.starred then startPlaces item (x.items.drop item)
  else startPlaces (item + 1) (x.items.drop (item + 1))

/-- The places that a byte leads to from a place. No two forms have a byte in common. -/
def stepPlace (x : Regex) (b : Nat) (p : RegexPlace) : List RegexPlace :=
  match (x.due p).find? fun (_, ranges) => ranges.head?.any fun r => r.contains b with
  | some (_, [_]) => x.placesBehind p.item
  | some (n, _) => [⟨p.item, n, p.read + 1⟩]
  | none => []

/-- Adds places to a state. If it has the first of them it has what follows from it. -/
def addPlaces (state places : List RegexPlace) : List RegexPlace :=
  if places.head?.any state.contains then state else state ++ places

/-- The state that a byte leads to from a state. -/
def step (x : Regex) (b : Nat) (state : List RegexPlace) : List RegexPlace :=
  state.foldl (fun places p => addPlaces places (x.stepPlace b p)) []

/-- The bytes at which a range begins that is due in a state, or at which one has ended. -/
def turningBytes (x : Regex) (state : List RegexPlace) : List Nat :=
  let ranges := state.flatMap fun p => (x.due p).filterMap fun (_, ranges) => ranges.head?
  (ranges.flatMap fun r => [r.least, r.greatest + 1]).eraseDups.filter (· < 256)

/-- The states that are one byte away from a state. -/
def successors (x : Regex) (state : List RegexPlace) : List (List RegexPlace) :=
  ((x.turningBytes state).map fun b => x.step b state).eraseDups.filter fun s => !s.isEmpty

/-- Looks for states from those in a list on, given all that have been found. Answers whether there
are at most so many. -/
def explore (x : Regex) (most : Nat) :
    Nat → List (List RegexPlace) → List (List RegexPlace) → Bool
  | fuel + 1, state :: rest, found =>
    let new := (x.successors state).filter fun s => !found.contains s
    if most < found.length + new.length then false
    else explore x most fuel (new ++ rest) (new ++ found)
  | _, todo, _ => todo.isEmpty

/-- The most states that an expression may have. -/
def mostStates : Nat := 1000

/-- Whether an expression has no more states than it may have. -/
def hasFewStates (x : Regex) : Bool :=
  let start := startPlaces 0 x.items
  x.explore mostStates (mostStates + 1) [start] [start]

end Regex

end Catalog
