import Catalog.Document
import Catalog.Text.Analyzer
import Catalog.Text.Edits

/-!
# Entries of an index

What an index keeps of a document: its stored values, and the terms under which it is found.

## Main definitions

* `Posting`: a term of a field with its place
* `Entry`: a document with its postings
* `Entry.ofDocument`: the entry of a document, by the fields of an index and an analyzer
* `Payload.characters?`: a term as characters, which is how expressions see it
* `Payload.isWithinEdits`: whether a text is so near to a term
-/

namespace Catalog

/-- A term of a field and its place in the field. -/
structure Posting where
  field : String
  place : Nat
  term : Payload
  deriving DecidableEq

/-- A document and the terms under which it is found. -/
structure Entry where
  document : Document
  postings : List Posting
  deriving DecidableEq

/-- Longer texts are kept but not found. -/
def longestTermBytes : Nat := 65530

/-- The postings of one value of a field. -/
def StoreField.postings (f : StoreField) (analyzer : Analyzer) (value : Payload) : List Posting :=
  match f.indexing, value with
  | .none, _ => []
  | .whole, .text s => if s.utf8ByteSize ≤ longestTermBytes then [⟨f.name, 0, value⟩] else []
  | .whole, _ => [⟨f.name, 0, value⟩]
  | .words, .text s => (analyzer.tokens s).map fun t => ⟨f.name, t.position, .text t.text⟩
  | .words, _ => []

/-- The entry of a document. It has the whole document, whether a field is stored or not. A store of
the record type that an index was made for never looks at what is not stored, which is
`Store.IsBuiltFor.ofDocument_kept`. Only an index that is opened for another type, which has a
property by the name of a field that is not stored, would tell the difference. -/
def Entry.ofDocument (fields : List StoreField) (analyzer : Analyzer) (d : Document) : Entry where
  document := d
  postings := d.values.flatMap fun (name, value) =>
    match fields.find? fun f => f.name == name with
    | some f => f.postings analyzer value
    | none => []

/-- The terms of a field. -/
def Entry.terms (e : Entry) (field : String) : List Payload :=
  (e.postings.filter fun p => p.field == field).map Posting.term

/-- The places at which a field has a text. -/
def Entry.places (e : Entry) (field text : String) : List Nat :=
  (e.postings.filter fun p => p.field == field && p.term == .text text).map Posting.place

/-- The eight bytes of a word, the highest first. -/
def wordBytes (n : Nat) : List UInt8 :=
  (List.range 8).map fun i => (n / 256 ^ (7 - i) % 256).toUInt8

/-- The bytes of a term. Those of a number are in the order of its values. -/
def Payload.bytes : Payload → List UInt8
  | .text s => s.toUTF8.toList
  | .signed n => wordBytes (n.toInt + 2 ^ (63 : Nat)).toNat
  | .unsigned n => wordBytes n.toNat
  | .double x => wordBytes (x.order + 2 ^ (63 : Nat)).toNat

/-- A term as characters, which the bytes of a number are only by accident. -/
def Payload.characters? : Payload → Option (List Char)
  | .text s => some s.toList
  | v => (String.fromUTF8? ⟨v.bytes.toArray⟩).map String.toList

/-- How many bytes follow a byte that begins a character. -/
def followingBytes (b : UInt8) : Nat :=
  if b < 0xC0 then 0 else if b < 0xE0 then 1 else if b < 0xF0 then 2 else 3

/-- Cuts bytes into characters by what their first bytes announce, whatever the others are. There
are none if the last character is cut short. -/
def cutBytes? : List UInt8 → Option (List (List UInt8))
  | [] => some []
  | b :: r =>
    if r.length < followingBytes b then none
    else (cutBytes? (r.drop (followingBytes b))).map ((b :: r.take (followingBytes b)) :: ·)
termination_by s => s.length
decreasing_by exact Nat.lt_succ_of_le (Nat.le_trans (Nat.le_of_eq List.length_drop) (Nat.sub_le ..))

/-- Whether some edits turn a text into a term. -/
def Payload.isWithinEdits (edits : Nat) (s : String) : Payload → Bool
  | .text t => withinEdits edits s.toList t.toList
  | v => (cutBytes? v.bytes).any fun t => withinEdits edits (s.toList.map String.utf8EncodeChar) t

end Catalog
