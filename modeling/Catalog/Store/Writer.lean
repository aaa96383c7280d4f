import Catalog.Identity
import Catalog.Store.Engine

/-!
# Writers

A writer changes the index of a store. Changes stay pending until they are committed. Saving and
deleting commit at once, and so publish what was staged before; a batch is given up as a whole if a
record of it fails. A record is written in two steps: what has its identity is deleted, and its entry
is added. The second may fail when the first is done, and the deletion stays pending then.

Unless another engine is named, a writer works with one whose calls succeed.

## Main definitions

* `Store.writeRecord`: the identity and the entry that a record is written with
* `Writer.save`, `Writer.stage`, `Writer.saveBatch`: writing records
* `Writer.delete`, `Writer.deleteById`, `Writer.clear`: deleting them
* `Writer.optimize`: merging segments
-/

namespace Catalog

/-- What a write leaves behind: the source of identities, the record with its identity, and the
answer. -/
structure WriteOutcome (σ ρ α : Type) where
  ids : σ
  record : ρ
  result : Except SearchError α

namespace Store

variable {σ ρ : Type}

/-- The term of an identity. -/
def identityDeletion (s : Store ρ) (id : RecordId) : Change :=
  .delete s.schema.identityField (.text id.text)

/-- The entry of a record. -/
def entry (s : Store ρ) (r : ρ) (implicit : Option RecordId) : Except SearchError Entry :=
  ((s.schema.toDocument r implicit).map (Entry.ofDocument s.fields s.config.analyzer)).mapError
    .codec

/-- The entry of a record, with the identity that it is written under. -/
def entryUnder (s : Store ρ) (r : ρ) (id : RecordId) (implicit : Option RecordId) :
    Except SearchError (RecordId × Entry) :=
  (s.entry r implicit).map fun e => (id, e)

/-- The identity and the entry that a record is written with. A record without an identity is given
one; where its type has none, the new one goes into the document only. -/
def writeRecord (s : Store ρ) (g : IdGenerator σ) (ids : σ) (r : ρ) :
    WriteOutcome σ ρ (RecordId × Entry) :=
  match s.schema.identityColumn? with
  | none =>
    let (id, ids) := g.next ids
    ⟨ids, r, s.entryUnder r id (some id)⟩
  | some column =>
    match s.schema.recordIdentity r with
    | .error e => ⟨ids, r, .error (.codec e)⟩
    | .ok (some id) => ⟨ids, r, s.entryUnder r id none⟩
    | .ok none =>
      let (id, ids) := g.next ids
      match column.accessor.write r (.id id) with
      | .error e => ⟨ids, r, .error (.codec e)⟩
      | .ok r => ⟨ids, r, s.entryUnder r id none⟩

/-- A writer for the index of a store, on a machine that runs some number of threads at once. The
memory has to be enough and not too much, and there is no writer where another one is at work. -/
def writer (s : Store ρ) (i : Index) (isBusy : Bool) (parallelism : Nat := writerThreads) :
    Except SearchError Writer :=
  if isBusy then .error .writerBusy
  else if !i.isListed then .error .unlisted
  else if s.config.writerBytes < leastWriterBytes ||
      tooManyWriterBytes parallelism ≤ s.config.writerBytes then
    .error .writerMemory
  else .ok ⟨i, []⟩

end Store

namespace Writer

variable {σ ρ : Type}

/-- Writes a record without committing it: deletes what has its identity, and adds its entry. If the
record cannot be written, nothing is done at all; if its entry is refused, the deletion stays. -/
def stage (w : Writer) (s : Store ρ) (g : IdGenerator σ) (ids : σ) (r : ρ)
    (E : Engine := .reliable) : Writer × WriteOutcome σ ρ RecordId :=
  let o := s.writeRecord g ids r
  match o.result with
  | .error e => (w, ⟨o.ids, o.record, .error e⟩)
  | .ok (id, e) =>
    let w := w.push [s.identityDeletion id]
    let (w, added) := E.add w e
    (w, ⟨o.ids, o.record, added.map fun _ => id⟩)

/-- Writes a record and commits. -/
def save (w : Writer) (s : Store ρ) (g : IdGenerator σ) (ids : σ) (r : ρ)
    (E : Engine := .reliable) : Writer × WriteOutcome σ ρ RecordId :=
  let (w, o) := w.stage s g ids r E
  match o.result with
  | .error _ => (w, o)
  | .ok id =>
    let (w, committed) := E.commit w
    (w, ⟨o.ids, o.record, committed.map fun _ => id⟩)

/-- Writes records one after the other, up to the first that fails. -/
def stageAll (w : Writer) (s : Store ρ) (g : IdGenerator σ) (ids : σ) (rs : List ρ)
    (E : Engine := .reliable) : Writer × WriteOutcome σ (List ρ) Unit :=
  match rs with
  | [] => (w, ⟨ids, [], .ok ()⟩)
  | r :: rs =>
    let (w, o) := w.stage s g ids r E
    match o.result with
    | .error e => (w, ⟨o.ids, o.record :: rs, .error e⟩)
    | .ok _ =>
      let (w, os) := stageAll w s g o.ids rs E
      (w, ⟨os.ids, o.record :: os.record, os.result⟩)

/-- Writes records and commits them together, with how many they are. If one fails, all that is
pending is given up, what was staged before included; if that fails as well, the answer is why. -/
def saveBatch (w : Writer) (s : Store ρ) (g : IdGenerator σ) (ids : σ) (rs : List ρ)
    (E : Engine := .reliable) : Writer × WriteOutcome σ (List ρ) Nat :=
  let (w, o) := w.stageAll s g ids rs E
  match o.result with
  | .ok _ =>
    let (w, committed) := E.commit w
    (w, ⟨o.ids, o.record, committed.map fun _ => rs.length⟩)
  | .error e =>
    let (w, givenUp) := E.rollback w
    (w, ⟨o.ids, o.record, givenUp.bind fun _ => .error e⟩)

/-- Deletes what has an identity, and commits; also says whether there was an identity to delete
by. -/
def deleteById (w : Writer) (s : Store ρ) (id : RecordId) (E : Engine := .reliable) :
    Writer × Except SearchError Bool :=
  if id.text.isEmpty then (w, .ok false)
  else
    let (w, committed) := E.commit (w.push [s.identityDeletion id])
    (w, committed.map fun _ => true)

/-- Deletes what has the identity of a record. -/
def delete (w : Writer) (s : Store ρ) (r : ρ) (E : Engine := .reliable) :
    Writer × Except SearchError Bool :=
  match s.schema.recordIdentity r with
  | .error e => (w, .error (.codec e))
  | .ok none => (w, .ok false)
  | .ok (some id) => w.deleteById s id E

/-- Deletes all that is committed, and commits what is pending; also says whether that was done. -/
def clear (w : Writer) (E : Engine := .reliable) : Writer × Bool :=
  match E.failedClear? w with
  | some w => (w, false)
  | none => (⟨w.index.cleared.commit w.pending, []⟩, true)

/-- Merges the committed segments. -/
def optimize (w : Writer) (E : Engine := .reliable) : Except SearchError Writer :=
  if w.index.isListed then
    match E.failedMerge? w with
    | some e => .error e
    | none => .ok { w with index := w.index.merged }
  else .error .unlisted

end Writer

end Catalog
