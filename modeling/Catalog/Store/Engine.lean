import Catalog.Store.Basic

/-!
# Engines

A writer collects changes, and an engine makes something of them: threads take the entries that are
added, while a deletion is only noted, and a commit publishes all of it at once. Each of these but
the deletion may fail, for reasons that lie outside the store: the threads may have died, or the
disk may be full. What a call does if it succeeds is settled here, and so is what one that fails may
leave behind; whether and why it fails is up to the engine.

## Main definitions

* `Writer`: an index with pending changes
* `Writer.Failure`: what a call that fails leaves of a writer
* `Engine`: which calls fail
* `Engine.reliable`: the engine whose calls all succeed
* `Engine.add`, `Engine.commit`, `Engine.rollback`: the calls
-/

namespace Catalog

/-- An index at work: what is committed, and what is pending. -/
structure Writer where
  index : Index
  pending : List Change

namespace Writer

/-- Makes the pending changes and publishes them. -/
def commit (w : Writer) : Writer :=
  ⟨w.index.commit w.pending, []⟩

/-- Gives the pending changes up. -/
def rollback (w : Writer) : Writer :=
  { w with pending := [] }

/-- Adds changes to the pending ones. -/
def push (w : Writer) (changes : List Change) : Writer :=
  { w with pending := w.pending ++ changes }

/-- What a call that fails leaves of a writer. Nothing has been published, and nothing is pending
that was not pending before, though some of that may be lost. -/
structure Failure (w : Writer) where
  cause : SearchError
  left : List Change
  left_sublist : left.Sublist w.pending

/-- The writer that is left. -/
def Failure.writer {w : Writer} (f : w.Failure) : Writer :=
  { w with pending := f.left }

end Writer

/-- Which calls fail, and why. -/
structure Engine where
  /-- Why no entry is taken any more, if the threads that take entries have died. -/
  stopped? : Writer → Option SearchError
  failedCommit? : (w : Writer) → Option w.Failure
  failedRollback? : (w : Writer) → Option w.Failure
  failedMerge? : Writer → Option SearchError
  /-- What is left of a writer that was to be cleared. The committed entries may be on the way out
  by then, so nothing is known of it. -/
  failedClear? : Writer → Option Writer

namespace Engine

/-- The engine whose calls all succeed. -/
def reliable : Engine where
  stopped? _ := none
  failedCommit? _ := none
  failedRollback? _ := none
  failedMerge? _ := none
  failedClear? _ := none

variable (E : Engine) (w : Writer)

/-- Adds an entry to what is pending, unless it is refused. -/
def add (e : Entry) : Writer × Except SearchError Unit :=
  match E.stopped? w with
  | some cause => (w, .error cause)
  | none => (w.push [.add e], .ok ())

/-- Publishes what is pending. -/
def commit : Writer × Except SearchError Unit :=
  match E.failedCommit? w with
  | some f => (f.writer, .error f.cause)
  | none => (w.commit, .ok ())

/-- Gives up what is pending. -/
def rollback : Writer × Except SearchError Unit :=
  match E.failedRollback? w with
  | some f => (f.writer, .error f.cause)
  | none => (w.rollback, .ok ())

@[simp] theorem commit_reliable (w : Writer) : reliable.commit w = (w.commit, .ok ()) := rfl

end Engine

end Catalog
