import Catalog.Proofs.Store.Slots

/-!
# Ledgers

To a client a store is a ledger: for each identity the documents that are published, and those that
a commit would publish. A write puts its document in the place of whatever had the identity, a
deletion takes it away, a commit publishes, and a rollback or a batch that fails goes back to what
is published. Which identities are found is a parameter: under one that is not, a write replaces
nothing and a deletion takes nothing. Where all are found a ledger is a map from identities to
documents.

## Main definitions

* `Book`, `Ledger`: documents by identity, published and staged
* `Operation`: the calls of a client
* `Ledger.perform`, `Ledger.run`: what they do to a ledger

## Main results

* `Ledger.SameOf.run`: calls treat each identity by itself
* `Ledger.AtMostOne.run`: no identity that is found ever has more than one document
-/

namespace Catalog

/-- Documents by identity. -/
abbrev Book := RecordId → Multiset Document

namespace Book

variable (found : RecordId → Prop) [DecidablePred found]

/-- The book without what has an identity, if the identity is found. -/
def erase (b : Book) (id : RecordId) : Book := fun other =>
  if other = id ∧ found id then 0 else b other

/-- The book with a document in the place of what has its identity. -/
def put (b : Book) (id : RecordId) (d : Document) : Book := fun other =>
  b.erase found id other + if other = id then {d} else 0

variable {found} {id other : RecordId}

/-- Under an identity that is found the last document stands alone. -/
theorem put_self (h : found id) (b : Book) (d : Document) : b.put found id d id = {d} := by
  rw [put, erase, if_pos ⟨rfl, h⟩, if_pos rfl, Multiset.zero_add]

/-- Under an identity that is not found nothing is replaced. -/
theorem put_self_of_not (h : ¬ found id) (b : Book) (d : Document) :
    b.put found id d id = b id + {d} := by
  rw [put, erase, if_neg fun h' => h h'.2, if_pos rfl]

theorem put_of_ne (h : other ≠ id) (b : Book) (d : Document) :
    b.put found id d other = b other := by
  rw [put, erase, if_neg fun h' => h h'.1, if_neg h, Multiset.add_zero]

theorem mem_put (b : Book) (d : Document) : d ∈ b.put found id d id := by
  rw [put, if_pos rfl]
  exact Multiset.mem_add.mpr (.inr (Multiset.mem_singleton_self d))

theorem erase_of_ne (h : other ≠ id) (b : Book) : b.erase found id other = b other := by
  rw [erase, if_neg fun h' => h h'.1]

end Book

/-- What is published, and what a commit would publish. -/
structure Ledger where
  published : Book
  staged : Book

/-- A call of a client. -/
inductive Operation (ρ : Type) where
  | save (r : ρ)
  | stage (r : ρ)
  | saveBatch (rs : List ρ)
  | delete (r : ρ)
  | deleteById (id : RecordId)
  | commit
  | rollback
  | optimize

variable {σ ρ : Type}

/-! ### Calls on a ledger -/

namespace Ledger

/-- The ledger without documents. -/
def empty : Ledger := ⟨fun _ => 0, fun _ => 0⟩

/-- Publishes what is staged. -/
def publish (L : Ledger) : Ledger := ⟨L.staged, L.staged⟩

/-- Goes back to what is published. -/
def withdraw (L : Ledger) : Ledger := ⟨L.published, L.published⟩

variable (found : RecordId → Prop) [DecidablePred found]

/-- Stages the document of a record that was written, as the record was given back. A write that
fails stages nothing. -/
def write (L : Ledger) (s : Store ρ) (o : WriteOutcome σ ρ (RecordId × Entry)) : Ledger :=
  match o.result, s.schema.toDocument o.record none with
  | .ok (id, _), .ok d => { L with staged := L.staged.put found id d }
  | _, _ => L

/-- Stages records one after the other, up to the first that fails; also says whether none did. -/
def writeAll (L : Ledger) (s : Store ρ) (g : IdGenerator σ) (ids : σ) :
    List ρ → Ledger × σ × Bool
  | [] => (L, ids, true)
  | r :: rs =>
    let o := s.writeRecord g ids r
    match o.result with
    | .error _ => (L, o.ids, false)
    | .ok _ => (L.write found s o).writeAll s g o.ids rs

theorem write_published (L : Ledger) (s : Store ρ)
    (o : WriteOutcome σ ρ (RecordId × Entry)) :
    (L.write found s o).published = L.published := by
  unfold write
  split <;> rfl

/-- A batch publishes nothing before it is complete. -/
theorem writeAll_published (L : Ledger) (s : Store ρ) (g : IdGenerator σ) (ids : σ)
    (rs : List ρ) : (L.writeAll found s g ids rs).1.published = L.published := by
  induction rs generalizing L ids with
  | nil => rfl
  | cons r rs ih =>
    cases hw : (s.writeRecord g ids r).result with
    | error e => simp only [writeAll, hw]
    | ok p =>
      simp only [writeAll, hw]
      rw [ih, write_published]

/-- Takes away what has an identity, and publishes. Nothing has the empty identity. -/
def eraseById (L : Ledger) (id : RecordId) : Ledger :=
  if id.text.isEmpty then L else publish { L with staged := L.staged.erase found id }

/-- What a call does to a ledger, and to the source of identities. -/
def perform (L : Ledger) (s : Store ρ) (g : IdGenerator σ) (ids : σ) : Operation ρ → Ledger × σ
  | .save r =>
    let o := s.writeRecord g ids r
    match o.result with
    | .ok _ => ((L.write found s o).publish, o.ids)
    | .error _ => (L, o.ids)
  | .stage r =>
    let o := s.writeRecord g ids r
    (L.write found s o, o.ids)
  | .saveBatch rs =>
    match L.writeAll found s g ids rs with
    | (L', ids', true) => (L'.publish, ids')
    | (_, ids', false) => (L.withdraw, ids')
  | .delete r =>
    match s.schema.recordIdentity r with
    | .ok (some id) => (L.eraseById found id, ids)
    | _ => (L, ids)
  | .deleteById id => (L.eraseById found id, ids)
  | .commit => (L.publish, ids)
  | .rollback => (L.withdraw, ids)
  | .optimize => (L, ids)

/-- What calls do to a ledger, one after the other. -/
def run (L : Ledger) (s : Store ρ) (g : IdGenerator σ) (ids : σ) (ops : List (Operation ρ)) :
    Ledger × σ :=
  ops.foldl (fun st op => st.1.perform found s g st.2 op) (L, ids)

theorem run_cons (L : Ledger) (s : Store ρ) (g : IdGenerator σ) (ids : σ) (op : Operation ρ)
    (ops : List (Operation ρ)) :
    L.run found s g ids (op :: ops) =
      (L.perform found s g ids op).1.run found s g (L.perform found s g ids op).2 ops := rfl

end Ledger

/-! ### What a ledger has of one identity -/

namespace Ledger

/-- Two ledgers that have the same documents of an identity. -/
def SameOf (id : RecordId) (L L' : Ledger) : Prop :=
  L.published id = L'.published id ∧ L.staged id = L'.staged id

variable {found found' : RecordId → Prop} [DecidablePred found] [DecidablePred found']
  {id : RecordId} {L L' : Ledger}

theorem SameOf.publish (h : SameOf id L L') : SameOf id L.publish L'.publish :=
  ⟨h.2, h.2⟩

theorem SameOf.withdraw (h : SameOf id L L') : SameOf id L.withdraw L'.withdraw :=
  ⟨h.1, h.1⟩

section

variable (hfound : found id ↔ found' id)

include hfound

theorem SameOf.erase (h : SameOf id L L') (own : RecordId) :
    L.staged.erase found own id = L'.staged.erase found' own id := by
  by_cases heq : id = own
  · subst heq
    simp only [Book.erase, hfound, h.2]
  · rw [Book.erase_of_ne heq, Book.erase_of_ne heq, h.2]

theorem SameOf.write (h : SameOf id L L') (s : Store ρ)
    (o : WriteOutcome σ ρ (RecordId × Entry)) :
    SameOf id (L.write found s o) (L'.write found' s o) := by
  unfold Ledger.write
  split
  · next own e d _ _ =>
    refine ⟨h.1, ?_⟩
    show L.staged.erase found own id + _ = L'.staged.erase found' own id + _
    rw [h.erase hfound]
  · exact h

theorem SameOf.writeAll (h : SameOf id L L') (s : Store ρ) (g : IdGenerator σ) (ids : σ)
    (rs : List ρ) :
    SameOf id (L.writeAll found s g ids rs).1 (L'.writeAll found' s g ids rs).1 ∧
      (L.writeAll found s g ids rs).2 = (L'.writeAll found' s g ids rs).2 := by
  induction rs generalizing L L' ids with
  | nil => exact ⟨h, rfl⟩
  | cons r rs ih =>
    cases hw : (s.writeRecord g ids r).result with
    | error e =>
      simp only [Ledger.writeAll, hw]
      exact ⟨h, trivial⟩
    | ok p =>
      simp only [Ledger.writeAll, hw]
      exact ih (h.write hfound s _) _

theorem SameOf.eraseById (h : SameOf id L L') (own : RecordId) :
    SameOf id (L.eraseById found own) (L'.eraseById found' own) := by
  unfold Ledger.eraseById
  split
  · exact h
  · exact ⟨h.erase hfound own, h.erase hfound own⟩

/-- What a call does to the documents of an identity depends on those and on whether the identity is
found, but on no other identity. -/
theorem SameOf.perform (h : SameOf id L L') (s : Store ρ) (g : IdGenerator σ) (ids : σ)
    (op : Operation ρ) :
    SameOf id (L.perform found s g ids op).1 (L'.perform found' s g ids op).1 ∧
      (L.perform found s g ids op).2 = (L'.perform found' s g ids op).2 := by
  cases op with
  | save r =>
    cases hw : (s.writeRecord g ids r).result with
    | error e =>
      simp only [Ledger.perform, hw]
      exact ⟨h, trivial⟩
    | ok p =>
      simp only [Ledger.perform, hw]
      exact ⟨(h.write hfound s _).publish, trivial⟩
  | stage r => exact ⟨h.write hfound s _, rfl⟩
  | saveBatch rs =>
    obtain ⟨hsame, hids⟩ := h.writeAll hfound s g ids rs
    rcases hL : L.writeAll found s g ids rs with ⟨M, ids', ok⟩
    rcases hL' : L'.writeAll found' s g ids rs with ⟨M', ids'', ok'⟩
    rw [hL, hL'] at hsame hids
    cases hids
    simp only [Ledger.perform, hL, hL']
    cases ok with
    | true => exact ⟨hsame.publish, rfl⟩
    | false => exact ⟨h.withdraw, rfl⟩
  | delete r =>
    simp only [Ledger.perform]
    split
    · exact ⟨h.eraseById hfound _, rfl⟩
    · exact ⟨h, rfl⟩
  | deleteById own => exact ⟨h.eraseById hfound own, rfl⟩
  | commit => exact ⟨h.publish, rfl⟩
  | rollback => exact ⟨h.withdraw, rfl⟩
  | optimize => exact ⟨h, rfl⟩

theorem SameOf.run (h : SameOf id L L') (s : Store ρ) (g : IdGenerator σ) (ids : σ)
    (ops : List (Operation ρ)) :
    SameOf id (L.run found s g ids ops).1 (L'.run found' s g ids ops).1 := by
  induction ops generalizing L L' ids with
  | nil => exact h
  | cons op ops ih =>
    obtain ⟨hsame, hids⟩ := h.perform hfound s g ids op
    rw [run_cons, run_cons, ← hids]
    exact ih hsame _

end

/-- At most one document has an identity, published or staged. -/
def AtMostOne (id : RecordId) (L : Ledger) : Prop :=
  (L.published id).card ≤ 1 ∧ (L.staged id).card ≤ 1

theorem AtMostOne.erase (h : AtMostOne id L) (own : RecordId) :
    (L.staged.erase found own id).card ≤ 1 := by
  unfold Book.erase
  split
  · simp
  · exact h.2

theorem AtMostOne.publish (h : AtMostOne id L) : AtMostOne id L.publish :=
  ⟨h.2, h.2⟩

theorem AtMostOne.withdraw (h : AtMostOne id L) : AtMostOne id L.withdraw :=
  ⟨h.1, h.1⟩

theorem AtMostOne.write (h : AtMostOne id L) (hfound : found id) (s : Store ρ)
    (o : WriteOutcome σ ρ (RecordId × Entry)) : AtMostOne id (L.write found s o) := by
  unfold Ledger.write
  split
  · next own e d _ _ =>
    refine ⟨h.1, ?_⟩
    show (L.staged.put found own d id).card ≤ 1
    by_cases heq : id = own
    · subst heq
      rw [Book.put_self hfound, Multiset.card_singleton]
    · rw [Book.put_of_ne heq]
      exact h.2
  · exact h

theorem AtMostOne.writeAll (h : AtMostOne id L) (hfound : found id) (s : Store ρ)
    (g : IdGenerator σ) (ids : σ) (rs : List ρ) :
    AtMostOne id (L.writeAll found s g ids rs).1 := by
  induction rs generalizing L ids with
  | nil => exact h
  | cons r rs ih =>
    cases hw : (s.writeRecord g ids r).result with
    | error e =>
      simp only [Ledger.writeAll, hw]
      exact h
    | ok p =>
      simp only [Ledger.writeAll, hw]
      exact ih (h.write hfound s _) _

theorem AtMostOne.eraseById (h : AtMostOne id L) (own : RecordId) :
    AtMostOne id (L.eraseById found own) := by
  unfold Ledger.eraseById
  split
  · exact h
  · exact ⟨h.erase own, h.erase own⟩

theorem AtMostOne.perform (h : AtMostOne id L) (hfound : found id) (s : Store ρ)
    (g : IdGenerator σ) (ids : σ) (op : Operation ρ) :
    AtMostOne id (L.perform found s g ids op).1 := by
  cases op with
  | save r =>
    cases hw : (s.writeRecord g ids r).result with
    | error e =>
      simp only [Ledger.perform, hw]
      exact h
    | ok p =>
      simp only [Ledger.perform, hw]
      exact (h.write hfound s _).publish
  | stage r => exact h.write hfound s _
  | saveBatch rs =>
    have hall := h.writeAll hfound s g ids rs
    rcases hL : L.writeAll found s g ids rs with ⟨M, ids', ok⟩
    rw [hL] at hall
    simp only [Ledger.perform, hL]
    cases ok with
    | true => exact hall.publish
    | false => exact h.withdraw
  | delete r =>
    simp only [Ledger.perform]
    split
    · exact h.eraseById _
    · exact h
  | deleteById own => exact h.eraseById own
  | commit => exact h.publish
  | rollback => exact h.withdraw
  | optimize => exact h

/-- **No identity that is found ever has more than one document.** -/
theorem AtMostOne.run (h : AtMostOne id L) (hfound : found id) (s : Store ρ) (g : IdGenerator σ)
    (ids : σ) (ops : List (Operation ρ)) : AtMostOne id (L.run found s g ids ops).1 := by
  induction ops generalizing L ids with
  | nil => exact h
  | cons op ops ih =>
    rw [run_cons]
    exact ih (h.perform hfound s g ids op) _

theorem atMostOne_empty (id : RecordId) : AtMostOne id empty :=
  ⟨Nat.zero_le _, Nat.zero_le _⟩

end Ledger

end Catalog
