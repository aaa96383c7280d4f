import Catalog.Proofs.Store.Ledger
import Catalog.Search.Searcher
import Mathlib.Data.String.Basic

/-!
# Writers as ledgers

The writer of a store keeps a ledger: its index has the published documents, and with the pending
changes the staged ones. Each call does to both what it does to one, failing calls included. The
identities that are found are those that fit a term; under a longer one a write replaces nothing, so
that for those a store is no map.

## Main definitions

* `Writer.perform`, `Writer.run`: the calls of a client on a writer
* `Writer.Keeps`: a writer that keeps a ledger

## Main results

* `Writer.Keeps.perform`, `Writer.Keeps.run`: calls are kept in step
* `Store.IsMadeFor.documents_run`: what is published after any calls on a new index
-/

namespace Catalog

variable {σ ρ : Type}

/-! ### Calls on a writer -/

namespace Writer

/-- What a call does to a writer, and to the source of identities. Whether it succeeds is for the
client to see; the writer goes on either way. -/
def perform (w : Writer) (s : Store ρ) (g : IdGenerator σ) (ids : σ) (op : Operation ρ)
    (E : Engine := .reliable) : Writer × σ :=
  match op with
  | .save r => let (w, o) := w.save s g ids r E; (w, o.ids)
  | .stage r => let (w, o) := w.stage s g ids r E; (w, o.ids)
  | .saveBatch rs => let (w, o) := w.saveBatch s g ids rs E; (w, o.ids)
  | .delete r => ((w.delete s r E).1, ids)
  | .deleteById id => ((w.deleteById s id E).1, ids)
  | .commit => ((E.commit w).1, ids)
  | .rollback => ((E.rollback w).1, ids)
  | .optimize =>
    match w.optimize E with
    | .ok w => (w, ids)
    | .error _ => (w, ids)

/-- What calls do to a writer, one after the other. -/
def run (w : Writer) (s : Store ρ) (g : IdGenerator σ) (ids : σ) (ops : List (Operation ρ))
    (E : Engine := .reliable) : Writer × σ :=
  ops.foldl (fun st op => st.1.perform s g st.2 op E) (w, ids)

theorem run_cons (w : Writer) (s : Store ρ) (g : IdGenerator σ) (ids : σ) (op : Operation ρ)
    (ops : List (Operation ρ)) (E : Engine) :
    w.run s g ids (op :: ops) E =
      (w.perform s g ids op E).1.run s g (w.perform s g ids op E).2 ops E := rfl

/-- The writer with an entry in the place of what has an identity. -/
def replace (w : Writer) (s : Store ρ) (id : RecordId) (e : Entry) : Writer :=
  (w.push [s.identityDeletion id]).push [.add e]

section

variable {s : Store ρ} {g : IdGenerator σ} {ids : σ} {r : ρ} {id : RecordId} {entry : Entry}
  {e : SearchError} {E : Engine}

/-- A record that cannot be written changes nothing. -/
theorem stage_of_error (h : (s.writeRecord g ids r).result = .error e) (w : Writer) :
    w.stage s g ids r E = (w, ⟨(s.writeRecord g ids r).ids, (s.writeRecord g ids r).record,
      .error e⟩) := by
  simp only [stage, h]

theorem stage_of_taken (h : (s.writeRecord g ids r).result = .ok (id, entry)) {w : Writer}
    (htaken : E.stopped? (w.push [s.identityDeletion id]) = none) :
    w.stage s g ids r E = (w.replace s id entry, ⟨(s.writeRecord g ids r).ids,
      (s.writeRecord g ids r).record, .ok id⟩) := by
  simp only [stage, h, Engine.add, htaken, Except.map, replace]

/-- Where no call fails, a record that can be written is written. -/
theorem stage_of_ok (h : (s.writeRecord g ids r).result = .ok (id, entry)) (w : Writer) :
    w.stage s g ids r = (w.replace s id entry, ⟨(s.writeRecord g ids r).ids,
      (s.writeRecord g ids r).record, .ok id⟩) :=
  stage_of_taken h rfl

end

end Writer

/-! ### One step of a writer -/

/-- A change that a write or a deletion makes: it takes what has an identity, or adds an entry that
has one. -/
inductive Store.IdentityChange (s : Store ρ) : Change → Prop
  | delete (id : RecordId) : s.IdentityChange (s.identityDeletion id)
  | add {e : Entry} {id : RecordId} (h : e.HasIdentity s.schema.identityField id) :
      s.IdentityChange (.add e)

/-- All entries are found under the identity of their documents. -/
def Store.Identifies (s : Store ρ) (slots : List Slot) : Prop :=
  ∀ slot ∈ slots, ∃ id, slot.entry.HasIdentity s.schema.identityField id

theorem Index.draft_append (i : Index) (a b : List Change) :
    i.draft (a ++ b) = b.foldl Draft.apply (i.draft a) :=
  List.foldl_append

theorem Store.IdentityChange.exists_identity {s : Store ρ} {c : Change} (hc : s.IdentityChange c)
    {e : Entry} (he : c = .add e) : ∃ id, e.HasIdentity s.schema.identityField id := by
  cases hc with
  | delete id => cases he
  | add h =>
    cases he
    exact ⟨_, h⟩

theorem Store.Identifies.apply {s : Store ρ} {d : Draft} (h : s.Identifies d.slots) {c : Change}
    (hc : s.IdentityChange c) : s.Identifies (d.apply c).slots :=
  Draft.forall_apply (p := fun e => ∃ id, e.HasIdentity s.schema.identityField id) h
    fun _ he => hc.exists_identity he

theorem Store.Identifies.foldl_apply {s : Store ρ} {d : Draft} (h : s.Identifies d.slots)
    {changes : List Change} (hchanges : ∀ c ∈ changes, s.IdentityChange c) :
    s.Identifies (changes.foldl Draft.apply d).slots :=
  Draft.forall_foldl_apply (p := fun e => ∃ id, e.HasIdentity s.schema.identityField id) h
    fun _ he => (hchanges _ he).exists_identity rfl

/-- What changes make of the documents of an identity depends on those documents only. -/
theorem Store.Identifies.documentsWith_foldl_apply {s : Store ρ} {d d' : Draft}
    (h : s.Identifies d.slots) (h' : s.Identifies d'.slots)
    (heq : ∀ id, documentsWith s.schema.identityField id d.slots =
      documentsWith s.schema.identityField id d'.slots)
    {changes : List Change} (hchanges : ∀ c ∈ changes, s.IdentityChange c) (id : RecordId) :
    documentsWith s.schema.identityField id (changes.foldl Draft.apply d).slots =
      documentsWith s.schema.identityField id (changes.foldl Draft.apply d').slots := by
  induction changes generalizing d d' with
  | nil => exact heq id
  | cons c changes ih =>
    obtain ⟨hc, hchanges⟩ := List.forall_mem_cons.mp hchanges
    refine ih (h.apply hc) (h'.apply hc) (fun other => ?_) hchanges
    cases hc with
    | delete own =>
      rw [identityDeletion, Draft.slots_apply_delete, Draft.slots_apply_delete,
        documentsWith_strike h, documentsWith_strike h', heq]
    | add he =>
      rw [Draft.slots_apply_add, Draft.slots_apply_add, documentsWith_append_live he,
        documentsWith_append_live he, heq]

/-- A writer keeps a ledger if its index has the published documents, and with the pending changes
the staged ones. -/
structure Writer.Keeps (s : Store ρ) (w : Writer) (L : Ledger) : Prop where
  entries : s.Identifies w.index.slots
  changes : ∀ c ∈ w.pending, s.IdentityChange c
  published : ∀ id, documentsWith s.schema.identityField id w.index.slots = L.published id
  staged : ∀ id, documentsWith s.schema.identityField id (w.index.draft w.pending).slots =
    L.staged id

namespace Writer.Keeps

variable {s : Store ρ} {w : Writer} {L : Ledger}

theorem start_identifies (h : w.Keeps s L) :
    s.Identifies (Draft.mk w.index.segments []).slots := by
  rw [Draft.slots, List.append_nil]
  exact h.entries

theorem draft_identifies (h : w.Keeps s L) : s.Identifies (w.index.draft w.pending).slots :=
  h.start_identifies.foldl_apply h.changes

theorem commit (h : w.Keeps s L) : w.commit.Keeps s L.publish where
  entries slot hslot := h.draft_identifies slot (Index.mem_slots_of_commit hslot)
  changes _ hc := absurd hc List.not_mem_nil
  published id := (w.index.documentsWith_commit w.pending _ id).trans (h.staged id)
  staged id := by
    show documentsWith _ id ((w.index.commit w.pending).segments.flatten ++ []) = L.staged id
    rw [List.append_nil, ← h.staged, ← w.index.documentsWith_commit]
    rfl

theorem rollback (h : w.Keeps s L) : w.rollback.Keeps s L.withdraw where
  entries := h.entries
  changes _ hc := absurd hc List.not_mem_nil
  published := h.published
  staged id := by
    show documentsWith _ id (w.index.segments.flatten ++ []) = L.published id
    rw [List.append_nil, ← h.published]
    rfl

/-- Merging segments changes no document, neither a published nor a staged one. -/
theorem optimize (h : w.Keeps s L) :
    ({ w with index := w.index.merged } : Writer).Keeps s L where
  entries slot hslot := h.entries slot (Index.mem_slots_of_merged hslot)
  changes := h.changes
  published id := by rw [← h.published, ← w.index.documentsWith_merged]
  staged id := by
    have hmerged : s.Identifies (Draft.mk w.index.merged.segments []).slots := by
      rw [Draft.slots, List.append_nil]
      exact fun slot hslot => h.entries slot (Index.mem_slots_of_merged hslot)
    refine (hmerged.documentsWith_foldl_apply h.start_identifies (fun other => ?_) h.changes
      id).trans (h.staged id)
    rw [Draft.slots, Draft.slots, List.append_nil, List.append_nil]
    exact w.index.documentsWith_merged _ other

/-- A deletion that is pending takes what is staged under its identity. -/
theorem push_delete (h : w.Keeps s L) (id : RecordId) :
    (w.push [s.identityDeletion id]).Keeps s
      { L with staged := L.staged.erase RecordId.FitsTerm id } where
  entries := h.entries
  changes := List.forall_mem_append.mpr ⟨h.changes, List.forall_mem_singleton.mpr (.delete id)⟩
  published := h.published
  staged other := by
    show documentsWith _ other (w.index.draft (w.pending ++ [s.identityDeletion id])).slots = _
    rw [Index.draft_append, List.foldl_cons, List.foldl_nil, Store.identityDeletion,
      Draft.slots_apply_delete, documentsWith_strike h.draft_identifies, h.staged]
    rfl

/-- A pending entry is staged beside what is staged under its identity. -/
theorem push_add (h : w.Keeps s L) {e : Entry} {id : RecordId}
    (he : e.HasIdentity s.schema.identityField id) :
    (w.push [.add e]).Keeps s
      { L with staged := fun other => L.staged other + if other = id then {e.document} else 0 }
    where
  entries := h.entries
  changes := List.forall_mem_append.mpr ⟨h.changes, List.forall_mem_singleton.mpr (.add he)⟩
  published := h.published
  staged other := by
    show documentsWith _ other (w.index.draft (w.pending ++ [.add e])).slots = _
    rw [Index.draft_append, List.foldl_cons, List.foldl_nil, Draft.slots_apply_add,
      documentsWith_append_live he, h.staged]

/-- **A write that succeeds puts its document in the place of what has its identity.** -/
theorem push_write {R : RecordDescription ρ} (hs : s.IsMadeFor R) (h : w.Keeps s L)
    {g : IdGenerator σ} {ids : σ} {r : ρ} {id : RecordId} {e : Entry}
    (hw : (s.writeRecord g ids r).result = .ok (id, e)) :
    (w.replace s id e).Keeps s (L.write RecordId.FitsTerm s (s.writeRecord g ids r)) := by
  obtain ⟨hd, he⟩ := hs.hasIdentity_of_writeRecord hw
  have hwrite : L.write RecordId.FitsTerm s (s.writeRecord g ids r) =
      { L with staged := L.staged.put RecordId.FitsTerm id e.document } := by
    rw [Ledger.write, hw, hd]
  rw [hwrite]
  exact (h.push_delete id).push_add he

/-! ### Calls in step -/

variable {R : RecordDescription ρ} {g : IdGenerator σ}

theorem ledger_write_of_error {o : WriteOutcome σ ρ (RecordId × Entry)} {e : SearchError}
    (ho : o.result = .error e) (L : Ledger) : L.write RecordId.FitsTerm s o = L := by
  rw [Ledger.write, ho]

/-- The records of a batch are written in step, and both sides agree on whether all were. -/
theorem stageAll (hs : s.IsMadeFor R) (h : w.Keeps s L) (ids : σ) (rs : List ρ) :
    (w.stageAll s g ids rs).1.Keeps s (L.writeAll RecordId.FitsTerm s g ids rs).1 ∧
      (w.stageAll s g ids rs).2.ids = (L.writeAll RecordId.FitsTerm s g ids rs).2.1 ∧
      ((w.stageAll s g ids rs).2.result.isOk = (L.writeAll RecordId.FitsTerm s g ids rs).2.2) := by
  induction rs generalizing w L ids with
  | nil => exact ⟨h, rfl, rfl⟩
  | cons r rs ih =>
    cases hw : (s.writeRecord g ids r).result with
    | error e =>
      simp only [Writer.stageAll, Ledger.writeAll, stage_of_error hw, hw]
      exact ⟨h, trivial, rfl⟩
    | ok p =>
      simp only [Writer.stageAll, Ledger.writeAll, stage_of_ok hw, hw]
      exact ih (h.push_write hs hw) _

theorem deleteById (h : w.Keeps s L) (id : RecordId) :
    (w.deleteById s id).1.Keeps s (L.eraseById RecordId.FitsTerm id) := by
  unfold Writer.deleteById Ledger.eraseById
  split
  · exact h
  · exact (h.push_delete id).commit

/-- A batch is published by both sides or withdrawn by both. -/
theorem saveBatch (hs : s.IsMadeFor R) (h : w.Keeps s L) (ids : σ) (rs : List ρ) :
    (w.perform s g ids (.saveBatch rs)).1.Keeps s
        (L.perform RecordId.FitsTerm s g ids (.saveBatch rs)).1 ∧
      (w.perform s g ids (.saveBatch rs)).2 =
        (L.perform RecordId.FitsTerm s g ids (.saveBatch rs)).2 := by
  obtain ⟨hkeeps, hids, hok⟩ := h.stageAll (g := g) hs ids rs
  have hpublished := L.writeAll_published RecordId.FitsTerm s g ids rs
  rcases hL : L.writeAll RecordId.FitsTerm s g ids rs with ⟨L', ids', ok⟩
  rw [hL] at hkeeps hids hok hpublished
  simp only [Writer.perform, Ledger.perform, Writer.saveBatch, hL]
  cases hresult : (w.stageAll s g ids rs).2.result with
  | error e =>
    rw [hresult] at hok
    obtain rfl : ok = false := hok.symm
    have hwithdraw : L'.withdraw = L.withdraw := by
      rw [Ledger.withdraw, Ledger.withdraw, hpublished]
    exact ⟨hwithdraw ▸ hkeeps.rollback, hids⟩
  | ok u =>
    rw [hresult] at hok
    obtain rfl : ok = true := hok.symm
    exact ⟨hkeeps.commit, hids⟩

/-- **Every call is kept in step**, and leaves the same source of identities. -/
theorem perform (hs : s.IsMadeFor R) (h : w.Keeps s L) (ids : σ) (op : Operation ρ) :
    (w.perform s g ids op).1.Keeps s (L.perform RecordId.FitsTerm s g ids op).1 ∧
      (w.perform s g ids op).2 = (L.perform RecordId.FitsTerm s g ids op).2 := by
  cases op with
  | save r =>
    cases hw : (s.writeRecord g ids r).result with
    | error e =>
      simp only [Writer.perform, Ledger.perform, Writer.save, stage_of_error hw, hw]
      exact ⟨h, trivial⟩
    | ok p =>
      simp only [Writer.perform, Ledger.perform, Writer.save, stage_of_ok hw, hw]
      exact ⟨(h.push_write hs hw).commit, trivial⟩
  | stage r =>
    cases hw : (s.writeRecord g ids r).result with
    | error e =>
      simp only [Writer.perform, Ledger.perform, stage_of_error hw, ledger_write_of_error hw]
      exact ⟨h, trivial⟩
    | ok p =>
      simp only [Writer.perform, Ledger.perform, stage_of_ok hw]
      exact ⟨h.push_write hs hw, trivial⟩
  | saveBatch rs => exact h.saveBatch hs ids rs
  | delete r =>
    simp only [Writer.perform, Ledger.perform, Writer.delete]
    cases s.schema.recordIdentity r with
    | error e => exact ⟨h, rfl⟩
    | ok o =>
      cases o with
      | none => exact ⟨h, rfl⟩
      | some id => exact ⟨h.deleteById id, rfl⟩
  | deleteById id => exact ⟨h.deleteById id, rfl⟩
  | commit => exact ⟨h.commit, rfl⟩
  | rollback => exact ⟨h.rollback, rfl⟩
  | optimize =>
    cases hlisted : w.index.isListed with
    | true =>
      simp only [Writer.perform, Ledger.perform, Writer.optimize, hlisted, if_true]
      exact ⟨h.optimize, rfl⟩
    | false =>
      simp only [Writer.perform, Ledger.perform, Writer.optimize, hlisted]
      exact ⟨h, rfl⟩

/-- **Calls one after the other are kept in step.** -/
theorem run (hs : s.IsMadeFor R) (h : w.Keeps s L) (ids : σ) (ops : List (Operation ρ)) :
    (w.run s g ids ops).1.Keeps s (L.run RecordId.FitsTerm s g ids ops).1 := by
  induction ops generalizing w L ids with
  | nil => exact h
  | cons op ops ih =>
    obtain ⟨hkeeps, hids⟩ := h.perform (g := g) hs ids op
    rw [Writer.run_cons, Ledger.run_cons, hids]
    exact ih hkeeps _

end Writer.Keeps

/-! ### A new index -/

/-- A writer of a new index. -/
def Store.newWriter (s : Store ρ) : Writer := ⟨.empty s.fields, []⟩

/-- A searcher of a new index. -/
def Store.newSearcher (s : Store ρ) (R : RecordType ρ) : Searcher ρ :=
  ⟨R, s, s.newWriter.index.snapshot⟩

theorem Store.newWriter_keeps (s : Store ρ) : s.newWriter.Keeps s .empty where
  entries _ h := absurd h List.not_mem_nil
  changes _ h := absurd h List.not_mem_nil
  published _ := rfl
  staged _ := rfl

/-- Every document of entries that are found under their identity carries it. -/
theorem Store.Identifies.exists_identity {s : Store ρ} {slots : List Slot} (h : s.Identifies slots)
    {d : Document} (hd : d ∈ liveDocuments slots) :
    ∃ id, d.identity? s.schema.identityField = some id := by
  obtain ⟨slot, hslot, rfl⟩ := exists_slot_of_mem_liveDocuments hd
  obtain ⟨id, hid⟩ := h slot hslot
  exact ⟨id, hid.identity?_document⟩

namespace Store.IsMadeFor

variable {s : Store ρ} {R : RecordDescription ρ}

/-- **What is published after any calls on a new index.** Where all identities are found, a ledger
is a map: it has at most one document of each. The published documents of identities that fit a term
are those of that map; the documents of longer ones are all that were ever written and published. -/
theorem documents_run (h : s.IsMadeFor R) (g : IdGenerator σ) (ids : σ)
    (ops : List (Operation ρ)) :
    let slots := (s.newWriter.run s g ids ops).1.index.slots
    let map := (Ledger.empty.run (fun _ => True) s g ids ops).1.published
    let ledger := (Ledger.empty.run RecordId.FitsTerm s g ids ops).1.published
    (∀ id, (map id).card ≤ 1) ∧
      (∀ id, id.FitsTerm → documentsWith s.schema.identityField id slots = map id) ∧
      (∀ id, documentsWith s.schema.identityField id slots = ledger id) ∧
      ∀ d ∈ liveDocuments slots, ∃ id, d.identity? s.schema.identityField = some id := by
  have hkeeps := s.newWriter_keeps.run (g := g) h ids ops
  refine ⟨fun id => ((Ledger.atMostOne_empty id).run trivial s g ids ops).1, fun id hfits => ?_,
    hkeeps.published, fun d hd => hkeeps.entries.exists_identity hd⟩
  have hsame : Ledger.SameOf id .empty .empty := ⟨rfl, rfl⟩
  rw [hkeeps.published]
  exact (hsame.run (iff_of_true hfits trivial) s g ids ops).1

/-- **What has been saved is there.** -/
theorem mem_liveDocuments_perform_save (h : s.IsMadeFor R) {w : Writer} {L : Ledger}
    (hkeeps : w.Keeps s L) {g : IdGenerator σ} {ids : σ} {r : ρ} {id : RecordId} {e : Entry}
    (hw : (s.writeRecord g ids r).result = .ok (id, e)) {d : Document}
    (hd : s.schema.toDocument (s.writeRecord g ids r).record none = .ok d) :
    d ∈ liveDocuments (w.perform s g ids (.save r)).1.index.slots := by
  have hpublished := (hkeeps.perform (g := g) h ids (.save r)).1.published id
  have hmem : d ∈ documentsWith s.schema.identityField id
      (w.perform s g ids (.save r)).1.index.slots := by
    rw [hpublished]
    simp only [Ledger.perform, hw, Ledger.write, hd]
    exact Book.mem_put L.staged d
  exact Multiset.mem_of_mem_filter hmem

/-- A store of shops. -/
def shops : Store Shop :=
  ⟨Shop.schema, ⟨"", 15, .greek, 500, 20⟩, Shop.schema.storeFields⟩

theorem isMadeFor_shops : shops.IsMadeFor Shop.description :=
  ⟨⟨Shop.build_description, rfl, Shop.nodup_storeFields⟩, rfl⟩

/-- A shop that is replaced under the identity that it was given is there at most once. -/
theorem documents_run_shops :
    let ops := [.save (numberedShop 1), .stage { numberedShop 2 with id := ⟨"s1"⟩ },
      .save { numberedShop 3 with id := ⟨"s1"⟩ }, .rollback]
    let slots := (shops.newWriter.run shops (.numbered "s") 0 ops).1.index.slots
    (documentsWith "id" ⟨"s1"⟩ slots).card ≤ 1 := by
  intro ops slots
  obtain ⟨hone, hmap, -⟩ := isMadeFor_shops.documents_run (.numbered "s") 0 ops
  have hfits : (RecordId.mk "s1").FitsTerm := by decide
  have heq : documentsWith "id" ⟨"s1"⟩ slots = _ := hmap ⟨"s1"⟩ hfits
  rw [heq]
  exact hone _

/-- A shop with an identity is written under it, and stays as it is. -/
theorem exists_of_writeRecord_shop {r : Shop} (h : r.id.text.isEmpty = false) (ids : Nat) :
    ∃ e d, (shops.writeRecord (.numbered "s") ids r).result = .ok (r.id, e) ∧
      (shops.writeRecord (.numbered "s") ids r).record = r ∧
      shops.schema.toDocument r none = .ok d := by
  have hid : shops.schema.recordIdentity r = .ok (some r.id) := by
    show Except.ok (if r.id.text.isEmpty then none else some r.id) = _
    rw [h]
    rfl
  have hcolumn : shops.schema.identityColumn? =
      some (Shop.schema.columns.head (by exact List.cons_ne_nil _ _)) := rfl
  simp only [Store.writeRecord, hcolumn, hid]
  exact ⟨_, _, rfl, trivial, rfl⟩

/-- A shop with an identity is there once it has been saved. -/
theorem exists_mem_liveDocuments_save_shop {r : Shop} (h : r.id.text.isEmpty = false) (ids : Nat) :
    ∃ d, shops.schema.toDocument r none = .ok d ∧ d ∈ liveDocuments
      (shops.newWriter.perform shops (.numbered "s") ids (.save r)).1.index.slots := by
  obtain ⟨e, d, hwrite, hrecord, hd⟩ := exists_of_writeRecord_shop h ids
  exact ⟨d, hd, isMadeFor_shops.mem_liveDocuments_perform_save shops.newWriter_keeps hwrite
    (by rw [hrecord]; exact hd)⟩

/-- A shop of which only the identity is known. -/
def shopOf (text : String) : Shop := { Shop.blank with id := ⟨text⟩ }

/-- Saving a shop under its own identity puts a document under that identity and publishes it. -/
theorem exists_perform_save_shopOf {text : String} (hne : text.isEmpty = false) (L : Ledger)
    (ids : Nat) :
    ∃ d, (L.perform RecordId.FitsTerm shops (.numbered "s") ids (.save (shopOf text))).1 =
      Ledger.publish { L with staged := L.staged.put RecordId.FitsTerm ⟨text⟩ d } := by
  obtain ⟨e, d, hw, hrecord, hd⟩ := exists_of_writeRecord_shop (r := shopOf text) hne ids
  refine ⟨d, ?_⟩
  simp only [Ledger.perform, hw, Ledger.write, hrecord, hd]
  rfl

theorem card_documentsWith_of_not_fitsTerm {text : String} (hlong : ¬ (RecordId.mk text).FitsTerm)
    (hne : text.isEmpty = false) :
    (documentsWith shops.schema.identityField ⟨text⟩ (shops.newWriter.run shops (.numbered "s") 0
      [.save (shopOf text), .save (shopOf text)]).1.index.slots).card = 2 := by
  have hkeeps := shops.newWriter_keeps.run (g := .numbered "s") isMadeFor_shops 0
    [.save (shopOf text), .save (shopOf text)]
  obtain ⟨d, hd⟩ := exists_perform_save_shopOf hne .empty 0
  rw [hkeeps.published, Ledger.run_cons, Ledger.run_cons, hd]
  obtain ⟨d', hd'⟩ := exists_perform_save_shopOf hne (Ledger.publish
    { Ledger.empty with staged := Ledger.empty.staged.put RecordId.FitsTerm ⟨text⟩ d })
    (Ledger.empty.perform RecordId.FitsTerm shops (.numbered "s") 0 (.save (shopOf text))).2
  rw [Ledger.run, List.foldl_nil, hd']
  show ((Ledger.empty.staged.put _ ⟨text⟩ d).put _ ⟨text⟩ d' ⟨text⟩).card = 2
  rw [Book.put_self_of_not hlong, Book.put_self_of_not hlong]
  rfl

theorem utf8ByteSize_replicate (n : Nat) :
    (String.ofList (List.replicate n 'x')).utf8ByteSize = n := by
  rw [String.utf8ByteSize_ofList]
  induction n with
  | zero => rfl
  | succ n ih => rw [List.replicate_succ, String.utf8Len_cons, ih]; rfl

/-- A shop whose identity is too long for a term by one byte is there twice once it has been saved
twice. -/
theorem exists_card_documentsWith_eq_two :
    ∃ text : String, text.utf8ByteSize = longestTermBytes + 1 ∧
      (documentsWith shops.schema.identityField ⟨text⟩ (shops.newWriter.run shops (.numbered "s") 0
        [.save (shopOf text), .save (shopOf text)]).1.index.slots).card = 2 := by
  have hsize := utf8ByteSize_replicate (longestTermBytes + 1)
  refine ⟨_, hsize, card_documentsWith_of_not_fitsTerm ?_ ?_⟩
  · rw [RecordId.FitsTerm, hsize]
    exact Nat.not_succ_le_self _
  · rw [Bool.eq_false_iff, Ne, String.isEmpty_iff, ← String.utf8ByteSize_eq_zero_iff, hsize]
    exact Nat.succ_ne_zero _

end Store.IsMadeFor

end Catalog
