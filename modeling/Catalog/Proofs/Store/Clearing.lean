import Catalog.Proofs.Store.Entries
import Catalog.Proofs.Store.Failure

/-!
# Clearing

Clearing takes what is committed and then commits. It takes nothing of what is pending, so that the
same call publishes what was staged before it, as the first commit of a new index would. Of a
pending change only an addition shows, and only if no deletion behind it takes it. No call leaves a
deletion as the last pending change, so whenever anything is pending a document shows: clearing
leaves the store empty just if nothing is pending.

## Main definitions

* `survivors`: the entries that pending changes add and do not take back
* `Writer.IsOf`: what all writers of a store have in common

## Main results

* `liveEntries_foldl_apply`: what changes make of a draft
* `Writer.IsOf.step`: each step keeps a writer one of its store
* `Writer.clear_of_run`: what clearing leaves in any state
* `Writer.not_empty_of_clear`: a store that is not empty when it has been cleared
-/

namespace Catalog

variable {σ ρ : Type}

/-! ### What changes leave -/

/-- Whether a change strikes an entry out. -/
def Change.takes (e : Entry) : Change → Bool
  | .delete field value => (e.terms field).contains value
  | .add _ => false

/-- The entries that changes add and that no later one of them takes. -/
def survivors : List Change → List Entry
  | [] => []
  | .delete _ _ :: changes => survivors changes
  | .add e :: changes =>
    if changes.any (Change.takes e) then survivors changes else e :: survivors changes

/-- The entries that are not struck out. -/
def liveEntries (slots : List Slot) : List Entry :=
  (slots.filter Slot.isLive).map Slot.entry

theorem liveDocuments_eq_liveEntries (slots : List Slot) :
    liveDocuments slots = ((liveEntries slots).map Entry.document : Multiset Document) := by
  rw [liveEntries, List.map_map]
  rfl

theorem liveEntries_append (a b : List Slot) :
    liveEntries (a ++ b) = liveEntries a ++ liveEntries b := by
  rw [liveEntries, List.filter_append, List.map_append]
  rfl

theorem Slot.isLive_strike (s : Slot) (field : String) (value : Payload) :
    (s.strike field value).isLive = (!(Change.delete field value).takes s.entry && s.isLive) := by
  rw [strike, Change.takes]
  cases (s.entry.terms field).contains value <;> simp

/-- A deletion leaves the entries that it does not take. -/
theorem liveEntries_map_strike (slots : List Slot) (field : String) (value : Payload) :
    liveEntries (slots.map (Slot.strike field value)) =
      (liveEntries slots).filter fun e => !(Change.delete field value).takes e := by
  rw [liveEntries, liveEntries, List.filter_map, List.filter_map, List.map_map,
    List.filter_filter]
  congr 1
  · funext s
    exact s.strike_entry value
  · exact List.filter_congr fun s _ => s.isLive_strike field value

/-- **What changes make of a draft**: of its entries those that no change takes, and behind them
those that the changes add and do not take back. -/
theorem liveEntries_foldl_apply (changes : List Change) (d : Draft) :
    liveEntries (changes.foldl Draft.apply d).slots =
      (liveEntries d.slots).filter (fun e => !changes.any (Change.takes e)) ++
        survivors changes := by
  induction changes generalizing d with
  | nil => simp [survivors]
  | cons c changes ih =>
    rw [List.foldl_cons, ih]
    cases c with
    | delete field value =>
      rw [Draft.slots_apply_delete, liveEntries_map_strike, List.filter_filter, survivors]
      simp only [List.any_cons, Bool.not_or, Bool.and_comm]
    | add e =>
      have htakes : (fun e' => !(Change.add e :: changes).any (Change.takes e')) =
          fun e' => !changes.any (Change.takes e') := by
        funext e'
        rw [List.any_cons, Change.takes, Bool.false_or]
      rw [Draft.slots_apply_add, liveEntries_append, List.filter_append, survivors,
        List.append_assoc, htakes]
      congr 1
      show [e].filter _ ++ _ = _
      rw [List.filter_cons, List.filter_nil]
      cases changes.any (Change.takes e) <;> rfl

/-- An addition behind all other changes stays. -/
theorem survivors_append_add (changes : List Change) (e : Entry) :
    survivors (changes ++ [.add e]) = survivors changes ++ [e] := by
  induction changes with
  | nil => rfl
  | cons c changes ih =>
    cases c with
    | delete field value => exact ih
    | add e' =>
      have htakes : (changes ++ [Change.add e]).any (Change.takes e') =
          changes.any (Change.takes e') := by
        rw [List.any_append, List.any_cons, List.any_nil, Change.takes, Bool.or_false,
          Bool.or_false]
      rw [List.cons_append, survivors, survivors, htakes, ih]
      cases changes.any (Change.takes e') <;> rfl

/-! ### Writers of a store -/

/-- A writer of the index of a store. If anything is pending, the last of it is an addition. -/
structure Writer.IsOf (s : Store ρ) (w : Writer) : Prop where
  fields_eq : w.index.fields = s.fields
  pending_eq : w.pending = [] ∨ ∃ changes e, w.pending = changes ++ [.add e]

namespace Writer.IsOf

variable {s : Store ρ} {w : Writer} {g : IdGenerator σ}

theorem newWriter (s : Store ρ) : s.newWriter.IsOf s := ⟨rfl, .inl rfl⟩

/-- **A step keeps a writer one of its store.** -/
theorem step {w' : Writer} (h : w.IsOf s) (hstep : Step s g w w') : w'.IsOf s := by
  cases hstep with
  | @write ids r id e hw =>
    exact ⟨h.fields_eq, .inr ⟨w.pending ++ [s.identityDeletion id], e, rfl⟩⟩
  | delete id => exact ⟨h.fields_eq, .inl rfl⟩
  | commit => exact ⟨h.fields_eq, .inl rfl⟩
  | rollback => exact ⟨h.fields_eq, .inl rfl⟩
  | merge =>
    refine ⟨?_, h.pending_eq⟩
    show w.index.merged.fields = s.fields
    rw [Index.merged]
    split <;> exact h.fields_eq
  | clear => exact ⟨h.fields_eq, .inl rfl⟩

/-- All calls keep a writer one of its store. -/
theorem runCalls (h : w.IsOf s) (ids : σ) (calls : List (Call ρ)) :
    (w.runCalls s g ids calls).1.IsOf s :=
  forall_of_steps (fun _ _ hw => hw.step) h (w.steps_runCalls s g ids calls)

/-- Whenever anything is pending, an addition stays. -/
theorem survivors_eq_nil_iff (h : w.IsOf s) : survivors w.pending = [] ↔ w.pending = [] := by
  rcases h.pending_eq with hnil | ⟨changes, e, hpending⟩
  · rw [hnil]
    exact iff_of_true rfl rfl
  · rw [hpending, survivors_append_add]
    exact iff_of_false (List.append_ne_nil_of_right_ne_nil _ (List.cons_ne_nil _ _))
      (List.append_ne_nil_of_right_ne_nil _ (List.cons_ne_nil _ _))

end Writer.IsOf

/-! ### Clearing -/

/-- A searcher counts the documents that are not struck out. -/
theorem Index.size_snapshot (i : Index) : i.snapshot.size = (liveDocuments i.slots).card := by
  rw [Snapshot.size, Snapshot.live, List.length_map, liveDocuments, Multiset.coe_card,
    List.length_map]
  exact ((stableSort_perm _ _).flatten.filter _).length_eq

namespace Writer

/-- What is there once a store has been cleared are the documents of pending changes. -/
theorem liveDocuments_clear (w : Writer) : liveDocuments w.clear.1.index.slots =
    ((survivors w.pending).map Entry.document : Multiset Document) := by
  show liveDocuments (w.index.cleared.commit w.pending).slots = _
  rw [Index.liveDocuments_commit, liveDocuments_eq_liveEntries, Index.draft,
    liveEntries_foldl_apply]
  rfl

/-- **What clearing leaves in any state.** The writer is that of a new index that has committed what
was pending: nothing is left of what was committed, and of what was pending there is, now and after
any number of commits, rollbacks and merges, just what was added and not taken back. So the store
is empty just if nothing was pending, and then the writer is that of a new index. -/
theorem clear_of_run (x : Searcher ρ) (g : IdGenerator σ) (ids : σ) (calls : List (Call ρ)) :
    let s := x.store
    let w := (s.newWriter.runCalls s g ids calls).1
    w.clear.2 = true ∧ w.clear.1 = Writer.commit { s.newWriter with pending := w.pending } ∧
    (∀ ops : List (Operation ρ), (∀ op ∈ ops, op.isUpkeep = true) → ∀ ids',
      liveDocuments (w.clear.1.run s g ids' ops).1.index.slots =
        ((survivors w.pending).map Entry.document : Multiset Document)) ∧
    (∃ y, x.refresh w.clear.1.index = .ok y ∧ y.count = (survivors w.pending).length ∧
      (y.count = 0 ↔ w.pending = [])) ∧
    (w.pending = [] → w.clear.1 = s.newWriter) := by
  intro s w
  have hw : w.IsOf s := (IsOf.newWriter s).runCalls ids calls
  have hnew : w.clear.1 = Writer.commit { s.newWriter with pending := w.pending } := by
    show (⟨w.index.cleared.commit w.pending, []⟩ : Writer) =
      ⟨(Index.empty s.fields).commit w.pending, []⟩
    rw [← hw.fields_eq]
    rfl
  have hlive := w.liveDocuments_clear
  refine ⟨rfl, hnew, fun ops hops ids' => ?_, ?_, fun hnil => ?_⟩
  · rw [liveDocuments_run_of_upkeep rfl hops, hlive]
  · have hcount : w.clear.1.index.snapshot.size = (survivors w.pending).length := by
      rw [Index.size_snapshot, hlive, Multiset.coe_card, List.length_map]
    refine ⟨_, rfl, hcount, ?_⟩
    show w.clear.1.index.snapshot.size = 0 ↔ w.pending = []
    rw [hcount, List.length_eq_zero_iff, hw.survivors_eq_nil_iff]
  · rw [hnew, hnil]
    rfl

/-! ### Shops -/

open Store.IsMadeFor in
/-- A shop that is committed, one that is staged twice and one that is staged once. -/
def stagedShops : List (Call Shop) :=
  [.operation (.save (shopOf "a")), .operation (.stage (shopOf "b")),
    .operation (.stage (shopOf "b")), .operation (.stage (shopOf "c"))]

/-- Clearing leaves the two shops that are pending, and none after a rollback. -/
theorem clear_of_run_shops :
    let s := Store.IsMadeFor.shops
    let w := (s.newWriter.runCalls s (.numbered "s") 0 stagedShops).1
    let w' := (s.newWriter.runCalls s (.numbered "s") 0
      (stagedShops ++ [.operation .rollback])).1
    (∃ y, (s.newSearcher Shop.recordType).refresh w.clear.1.index = .ok y ∧ y.count = 2) ∧
      w'.clear.1 = s.newWriter := by
  intro s w w'
  obtain ⟨-, -, -, ⟨y, hy, hcount, -⟩, -⟩ :=
    clear_of_run (s.newSearcher Shop.recordType) (.numbered "s") 0 stagedShops
  obtain ⟨-, -, -, -, hnew⟩ := clear_of_run (s.newSearcher Shop.recordType) (.numbered "s") 0
    (stagedShops ++ [.operation .rollback])
  exact ⟨⟨y, hy, hcount.trans (by decide +kernel)⟩, hnew rfl⟩

/-- A store in which a shop is staged is not empty when it has been cleared. -/
theorem not_empty_of_clear :
    let s := Store.IsMadeFor.shops
    let w := (s.newWriter.runCalls s (.numbered "s") 0
      [.operation (.stage (Store.IsMadeFor.shopOf "a"))]).1
    w.clear.2 = true ∧
      ¬ ∀ y, (s.newSearcher Shop.recordType).refresh w.clear.1.index = .ok y → y.count = 0 := by
  intro s w
  refine ⟨rfl, fun h => ?_⟩
  have hcount := h _ rfl
  exact absurd hcount (by decide +kernel)

end Writer

end Catalog
