import Catalog.Proofs.Clause.Combination
import Catalog.Proofs.Search.Pages
import Catalog.Proofs.Store.Entries

/-!
# Records by their identity

The term that a write deletes by and the term that an exact clause looks for are built apart from
each other. They are the same, and an entry has it just if its document carries the identity. So
what an exact clause finds under an identity is what the ledger of the store has for it.

## Main definitions

* `Store.IsWrittenUnder`: how the record that a write gives back is related to the one it was given
* `Searcher.LooksUp`: what a refreshed searcher finds under an identity

## Main results

* `Index.coe_ranking_of_accepts`: what a query finds that looks at documents only
* `Store.IsMadeFor.isWrittenUnder_of_writeRecord`: an identity is kept, or given once
* `Searcher.looksUp_of_run`: an identity leads to the last record that was written under it
-/

namespace Catalog

variable {σ ρ : Type}

/-! ### What a query finds -/

namespace Index

variable {i : Index} {q : Query}

/-- What there is to see of an index are its documents that are not struck out. -/
theorem coe_map_document_places (i : Index) :
    (i.snapshot.places.map Place.document : Multiset Document) = liveDocuments i.slots := by
  have hlive : i.snapshot.places.map Place.document =
      (i.ordered.flatten.filter Slot.isLive).map fun s => s.entry.document := by
    show i.snapshot.places.map ((·.document) ∘ Place.entry) = _
    rw [← List.map_map, ← Snapshot.live_eq, Snapshot.live, List.map_map]
    rfl
  rw [hlive]
  exact liveDocuments_eq_of_perm (stableSort_perm _ _).flatten

theorem exists_slot_of_mem_places {p : Place} (hp : p ∈ i.snapshot.places) :
    ∃ slot ∈ i.slots, slot.entry = p.entry := by
  obtain ⟨segment, hsegment, hp⟩ := List.mem_flatMap.mp hp
  obtain ⟨slot, hslot, rfl⟩ := List.mem_map.mp hp
  exact ⟨slot, List.mem_flatten.mpr ⟨segment, mem_stableSort.mp hsegment,
    List.mem_of_mem_filter hslot⟩, rfl⟩

/-- **What a query finds** if it looks at the documents of the entries only. -/
theorem coe_ranking_of_accepts {wanted : Document → Prop} [DecidablePred wanted]
    (h : ∀ slot ∈ i.slots, ∀ among,
      q.accepts among slot.entry = true ↔ wanted slot.entry.document) :
    (i.snapshot.ranking q : Multiset Document) = (liveDocuments i.slots).filter wanted := by
  have hfinds : ∀ p ∈ i.snapshot.places, q.finds p = decide (wanted p.document) := by
    intro p hp
    obtain ⟨slot, hslot, hentry⟩ := exists_slot_of_mem_places hp
    have := h slot hslot p.among
    rw [hentry] at this
    rw [Bool.eq_iff_iff, decide_eq_true_iff]
    exact this
  rw [Multiset.coe_eq_coe.mpr (i.snapshot.ranking_perm q), List.filter_congr hfinds,
    ← coe_map_document_places, Multiset.filter_coe, List.filter_map]
  rfl

end Index

/-! ### Exact clauses on identities -/

theorem Property.binding_property (P : Property ρ) : P.binding.property = P.name := by
  have hbinding := P.binding?_eq
  simp only [Descriptor.binding?] at hbinding
  split at hbinding
  · cases hbinding
  all_goals exact (congrArg Binding.property (Option.some.inj hbinding)).symm

namespace Store.IsMadeFor

variable {s : Store ρ} {R : RecordDescription ρ} {P : Property ρ}

/-- The property of the identity column is an identity. -/
theorem kind_of_identityColumn? (hcolumn : s.schema.identityColumn? = some P.column) :
    P.type.kind = .identity := by
  have hidentity := List.find?_some hcolumn
  rw [← P.binding_kind]
  exact beq_iff_eq.mp hidentity

/-- Where names are taken once, a name leads to its property. -/
theorem binding_name (hnames : (s.schema.bindings.map Binding.property).Nodup)
    (hP : P.column ∈ s.schema.columns) : s.scope.binding P.name = .ok P.binding := by
  have hmem : P.binding ∈ s.schema.bindings := List.mem_map_of_mem hP
  have hfind : (s.schema.bindings.find? fun b => b.property == P.name) = some P.binding := by
    rw [← P.binding_property]
    generalize s.schema.bindings = bindings at hnames hmem
    induction bindings with
    | nil => cases hmem
    | cons b bindings ih =>
      obtain ⟨hb, hnames⟩ := List.nodup_cons.mp hnames
      rcases List.mem_cons.mp hmem with rfl | hmem
      · exact List.find?_cons_of_pos (beq_self_eq_true _)
      · have hne : b.property ≠ P.binding.property := fun heq =>
          hb (heq ▸ List.mem_map_of_mem hmem)
        rw [List.find?_cons_of_neg (by simpa using hne), ih hnames hmem]
  have hscope : (s.scope.bindings.find? fun b => b.property == P.name) = some P.binding := hfind
  rw [SearchScope.binding, hscope]

/-- The query of an exact clause on an identity. -/
theorem build_exact {b : Binding} (hb : s.scope.binding P.name = .ok b) (hk : b.kind = .identity)
    (literal : String) :
    s.scope.build [{ property := P.name, kind := .exact literal }] =
      .ok ⟨some (.allOf [.term b.field (.text literal)]), none⟩ := by
  have hquery : s.scope.propertyQuery { property := P.name, kind := .exact literal } =
      .ok (.term b.field (.text literal)) := by
    simp only [SearchScope.propertyQuery, hb, bind, Except.bind, SearchScope.clauseQuery,
      Binding.exactValue, hk]
    rfl
  exact SearchScope.build_alone rfl hquery

/-- **An exact clause finds under an identity what carries it**, if the identity fits a term. -/
theorem coe_ranking_exact {i : Index} (hentries : s.Identifies i.slots) {id : RecordId}
    (hfits : id.FitsTerm) :
    (i.snapshot.ranking (.allOf [.term s.schema.identityField (.text id.text)]) :
      Multiset Document) = documentsWith s.schema.identityField id i.slots := by
  refine Index.coe_ranking_of_accepts fun slot hslot among => ?_
  obtain ⟨own, hown⟩ := hentries slot hslot
  rw [Query.accepts_allOf, List.all_cons, List.all_nil, Bool.and_true, Query.accepts,
    hown.contains_terms, hown.identity?_document]
  simp [hfits]

/-! ### Identities that are kept and given -/

section

variable (h : s.IsMadeFor R) (hP : P ∈ R.properties)
  (hcolumn : s.schema.identityColumn? = some P.column)

include h hP hcolumn

/-- The document of a record carries the identity that the record has. -/
theorem toField_of_identity? {r : ρ} {d : Document} (hd : s.schema.toDocument r none = .ok d)
    {id : RecordId} (hid : d.identity? s.schema.identityField = some id) :
    P.type.toField (P.get r) = .ok (some (.id id)) := by
  obtain ⟨part, hpart, hfirst⟩ := first?_toDocument h.nodup (.inl rfl) hd
    (RecordDescription.column_mem_of_build h.build hP)
  have hfirst : d.first? P.binding.field = part.head?.map Prod.snd := hfirst
  rw [identityField_eq hcolumn, Document.identity?, hfirst] at hid
  obtain ⟨o, ho⟩ := Property.toField_of_values hpart
  cases o with
  | none =>
    rw [Property.values_column_of_absent ho hpart] at hid
    cases hid
  | some v =>
    obtain ⟨own, rfl⟩ := P.type.exists_id_of_toField (kind_of_identityColumn? hcolumn) ho
    rw [Property.values_column_of_toField ho hpart] at hid
    cases hid
    exact ho

omit h hP in
theorem recordIdentity_of_toField {r : ρ} {id : RecordId}
    (hid : P.type.toField (P.get r) = .ok (some (.id id))) (hne : id.text ≠ "") :
    s.schema.recordIdentity r = .ok (some id) := by
  have hread : P.column.accessor.read r = .ok (some (.id id)) := hid
  simp only [Schema.recordIdentity, hcolumn, hread, Except.map]
  rw [if_neg (by simpa using hne)]

/-- A record that is read from a document has the identity that the document carries. -/
theorem recordIdentity_of_ofDocument {r : ρ} {d : Document}
    (hr : s.schema.ofDocument R.blank d = .ok r) {id : RecordId}
    (hid : d.identity? s.schema.identityField = some id) (hne : id.text ≠ "") :
    s.schema.recordIdentity r = .ok (some id) := by
  have hk := kind_of_identityColumn? hcolumn
  obtain ⟨o, ho⟩ := (RecordDescription.exists_ofDocument_iff h.build).mp ⟨r, hr⟩ P hP
  have hget := RecordDescription.get_ofDocument h.build hr hP ho
  have hfirst : d.first? P.binding.field = some (.text id.text) := by
    rw [identityField_eq hcolumn, Document.identity?] at hid
    split at hid
    · next heq => cases hid; exact heq
    · cases hid
  have hstored : P.binding.kind.readStored? (.text id.text) = some (.text id.text) := by
    rw [P.binding_kind, hk]
    rfl
  have hpayload : P.type.ofPayload (.text id.text) = P.type.fieldType.ofField (.id id) := by
    rw [PropertyType.ofPayload, hk]
    rfl
  simp only [Property.read?, hfirst, hstored, Property.ofPayload, hpayload] at ho
  cases ha : P.type.fieldType.ofField (.id id) with
  | error e => rw [ha] at ho; cases ho
  | ok a =>
    rw [ha] at ho
    cases ho
    refine recordIdentity_of_toField hcolumn ?_ hne
    rw [hget]
    exact P.type.toField_of_ofField_id hk ha

end

end Store.IsMadeFor

/-- How the record that a write gives back is related to the one that it was given: it has the
identity of the write, and is the same if it had one before. -/
structure Store.IsWrittenUnder (s : Store ρ) (r r' : ρ) (id : RecordId) : Prop where
  recordIdentity_eq : s.schema.recordIdentity r' = .ok (some id)
  eq_of_recordIdentity : ∀ own, s.schema.recordIdentity r = .ok (some own) → own = id ∧ r' = r

namespace Store

variable {s : Store ρ} {g : IdGenerator σ} {ids : σ} {r : ρ} {id : RecordId} {e : Entry}

theorem ne_empty_of_recordIdentity (h : s.schema.recordIdentity r = .ok (some id)) :
    id.text ≠ "" := by
  rw [Schema.recordIdentity] at h
  split at h
  · cases h
  · next c hc =>
    cases hv : c.accessor.read r with
    | error e => rw [hv] at h; cases h
    | ok v =>
      rw [hv] at h
      simp only [Except.map, Except.ok.injEq] at h
      split at h
      · split at h
        · cases h
        · next hne => cases h; simpa using hne
      · split at h
        · cases h
        · next hne => cases h; simpa using hne
      · cases h

/-- Nothing is written under the empty identity if none is generated. -/
theorem ne_empty_of_writeRecord (hg : ∀ ids, (g.next ids).1.text ≠ "")
    (hw : (s.writeRecord g ids r).result = .ok (id, e)) : id.text ≠ "" := by
  obtain ⟨-, ⟨hown, -⟩ | ⟨-, rfl⟩⟩ := isEntryOf_of_writeRecord hw
  · exact ne_empty_of_recordIdentity hown
  · exact hg ids

end Store

/-- **An identity is kept, or given once**: a write that succeeds gives the record back under the
identity that it had or, if it had none, under a new one. -/
theorem Store.IsMadeFor.isWrittenUnder_of_writeRecord {s : Store ρ} {R : RecordDescription ρ}
    (h : s.IsMadeFor R) {g : IdGenerator σ} (hg : ∀ ids, (g.next ids).1.text ≠ "") {ids : σ}
    {r : ρ} {id : RecordId} {e : Entry} (hw : (s.writeRecord g ids r).result = .ok (id, e)) :
    s.IsWrittenUnder r (s.writeRecord g ids r).record id := by
  obtain ⟨P, hP, hcolumn, -⟩ := h.exists_identity
  obtain ⟨hd, he⟩ := h.hasIdentity_of_writeRecord hw
  refine ⟨?_, fun own hown => ?_⟩
  · exact recordIdentity_of_toField hcolumn
      (h.toField_of_identity? hP hcolumn hd he.identity?_document) (ne_empty_of_writeRecord hg hw)
  · obtain ⟨-, ⟨hid, hrecord⟩ | ⟨hnone, -⟩⟩ := isEntryOf_of_writeRecord hw
    · cases hid.symm.trans hown
      exact ⟨rfl, hrecord⟩
    · cases hnone.symm.trans hown

/-! ### Saving is staging and committing -/

theorem Writer.save_snd (w : Writer) (s : Store ρ) (g : IdGenerator σ) (ids : σ) (r : ρ) :
    (w.save s g ids r).2 = (w.stage s g ids r).2 := by
  cases hresult : (w.stage s g ids r).2.result with
  | error e => simp only [save, hresult]
  | ok id =>
    simp only [save, hresult, Engine.commit_reliable, Except.map]
    rw [← hresult]

theorem Writer.save_fst_of_ok {w : Writer} {s : Store ρ} {g : IdGenerator σ} {ids : σ} {r : ρ}
    {id : RecordId} (h : (w.stage s g ids r).2.result = .ok id) :
    (w.save s g ids r).1 = (w.stage s g ids r).1.commit := by
  simp only [save, h, Engine.commit_reliable]

theorem Writer.run_append_commit (w : Writer) (s : Store ρ) (g : IdGenerator σ) (ids : σ)
    (ops : List (Operation ρ)) :
    (w.run s g ids (ops ++ [.commit])).1 = (w.run s g ids ops).1.commit := by
  rw [run, run, List.foldl_append]
  rfl

theorem Ledger.run_append_commit (found : RecordId → Prop) [DecidablePred found] (L : Ledger)
    (s : Store ρ) (g : IdGenerator σ) (ids : σ) (ops : List (Operation ρ)) :
    (L.run found s g ids (ops ++ [.commit])).1 = (L.run found s g ids ops).1.publish := by
  rw [run, run, List.foldl_append]
  rfl

/-! ### What a searcher finds -/

namespace Searcher

variable {x : Searcher ρ}

/-- A refreshed searcher finds under an identity just what is read from a document, which has that
identity; it finds nothing if there is no document. -/
def LooksUp (x : Searcher ρ) (P : Property ρ) (i : Index) (id : RecordId) (d? : Option Document) :
    Prop :=
  ∃ y, x.refresh i = .ok y ∧
    match d? with
    | none => y.searchByField P.name id.text = .ok none
    | some d => y.Decodes → ∃ r, y.store.schema.ofDocument y.type.blank d = .ok r ∧
        y.searchByField P.name id.text = .ok (some r) ∧
        y.store.schema.recordIdentity r = .ok (some id)

theorem searchByField_eq {property literal : String} {q : Query}
    (hbuild : x.store.scope.build [{ property, kind := .exact literal }] = .ok ⟨some q, none⟩) :
    x.searchByField property literal =
      (x.resultPage (((x.snapshot.ranking q).map fun d => ⟨d, none⟩).take
        x.store.config.maxResults) 1 1).map fun p => p.records.head? := by
  rw [searchByField, search_eq hbuild rfl rfl]
  rfl

theorem searchByField_of_ranking_nil {property literal : String} {q : Query}
    (hbuild : x.store.scope.build [{ property, kind := .exact literal }] = .ok ⟨some q, none⟩)
    (hnil : x.snapshot.ranking q = []) : x.searchByField property literal = .ok none := by
  rw [searchByField_eq hbuild, hnil, List.map_nil, List.take_nil]
  rfl

/-- The record of the only document that is found is returned. -/
theorem searchByField_of_ranking_singleton {property literal : String} {q : Query}
    (hbuild : x.store.scope.build [{ property, kind := .exact literal }] = .ok ⟨some q, none⟩)
    (hlimit : 1 ≤ x.store.config.maxResults) {d : Document} (hone : x.snapshot.ranking q = [d])
    {r : ρ} (hr : x.store.schema.ofDocument x.type.blank d = .ok r) :
    x.searchByField property literal = .ok (some r) := by
  have hdecode : x.decode ⟨d, none⟩ = .ok ⟨r, none⟩ := by
    rw [decode]
    simp only [hr]
  have hpage : [Candidate.mk d none].mapM x.decode = .ok [⟨r, none⟩] :=
    mapM_cons_eq_ok_iff.mpr ⟨_, [], hdecode, rfl, rfl⟩
  rw [searchByField_eq hbuild, hone, List.map_singleton, List.take_of_length_le hlimit,
    resultPage_of_mapM hpage]
  rfl

/-- What is there is read, by a searcher that reads what it sees. -/
theorem Decodes.exists_of_mem_liveDocuments {i : Index}
    (h : ({ x with snapshot := i.snapshot } : Searcher ρ).Decodes) {d : Document}
    (hd : d ∈ liveDocuments i.slots) :
    ∃ r, x.store.schema.ofDocument x.type.blank d = .ok r := by
  rw [← Index.coe_map_document_places, Multiset.mem_coe] at hd
  obtain ⟨p, hp, rfl⟩ := List.mem_map.mp hd
  refine h p.entry ?_
  rw [Snapshot.live_eq]
  exact List.mem_map_of_mem hp

section

variable {R : RecordDescription ρ} (h : x.store.IsMadeFor R) (hblank : x.type.blank = R.blank)
  {P : Property ρ} (hP : P ∈ R.properties)
  (hcolumn : x.store.schema.identityColumn? = some P.column)
  (hnames : (x.store.schema.bindings.map Binding.property).Nodup)
  (hlimit : 1 ≤ x.store.config.maxResults)

include h hblank hP hcolumn hnames hlimit

/-- What there is under an identity is what is found under it. -/
theorem looksUp_of_documentsWith {i : Index} (hlisted : i.isListed = true)
    (hentries : x.store.Identifies i.slots) {id : RecordId} (hne : id.text ≠ "")
    (hfits : id.FitsTerm) {d? : Option Document}
    (hd : documentsWith x.store.schema.identityField id i.slots =
      (d?.toList : Multiset Document)) : x.LooksUp P i id d? := by
  have hbinding := Store.IsMadeFor.binding_name hnames
    (RecordDescription.column_mem_of_build h.build hP)
  have hkind : P.binding.kind = .identity :=
    P.binding_kind.trans (Store.IsMadeFor.kind_of_identityColumn? hcolumn)
  have hbuild := Store.IsMadeFor.build_exact hbinding hkind id.text
  rw [← Store.IsMadeFor.identityField_eq hcolumn] at hbuild
  have hranking := (Store.IsMadeFor.coe_ranking_exact hentries hfits).trans hd
  let y : Searcher ρ := { x with snapshot := i.snapshot }
  refine ⟨y, if_pos hlisted, ?_⟩
  cases d? with
  | none =>
    exact searchByField_of_ranking_nil (x := y) hbuild (Multiset.coe_eq_zero _ |>.mp hranking)
  | some d =>
    have hone : i.snapshot.ranking _ = [d] := Multiset.coe_eq_singleton.mp hranking
    intro hdecodes
    have hmem : d ∈ documentsWith x.store.schema.identityField id i.slots := by
      rw [hd]
      exact Multiset.mem_coe.mpr (List.mem_singleton_self d)
    obtain ⟨hlive, hidentity⟩ := Multiset.mem_filter.mp hmem
    obtain ⟨r, hr⟩ := hdecodes.exists_of_mem_liveDocuments hlive
    refine ⟨r, hr, searchByField_of_ranking_singleton (x := y) hbuild hlimit hone hr, ?_⟩
    rw [hblank] at hr
    exact h.recordIdentity_of_ofDocument hP hcolumn hr hidentity hne

/-- A commit publishes what a writer has staged, so that it is found. -/
theorem looksUp_of_keeps {w : Writer} {L : Ledger} (hkeeps : w.Keeps x.store L) {id : RecordId}
    (hne : id.text ≠ "") (hfits : id.FitsTerm) {d? : Option Document}
    (hd : L.staged id = (d?.toList : Multiset Document)) : x.LooksUp P w.commit.index id d? :=
  looksUp_of_documentsWith h hblank hP hcolumn hnames hlimit rfl hkeeps.commit.entries hne hfits
    ((hkeeps.commit.published id).trans hd)

/-- A record that has been staged is found once it is committed. -/
theorem looksUp_of_stage {w : Writer} {L : Ledger} (hkeeps : w.Keeps x.store L)
    {g : IdGenerator σ} (hg : ∀ ids, (g.next ids).1.text ≠ "") {ids : σ} {r : ρ} {id : RecordId}
    (hid : (w.stage x.store g ids r).2.result = .ok id) :
    x.store.IsWrittenUnder r (w.stage x.store g ids r).2.record id ∧
    (id.FitsTerm → ∃ d, x.store.schema.toDocument (w.stage x.store g ids r).2.record none = .ok d ∧
      x.LooksUp P (w.stage x.store g ids r).1.commit.index id (some d)) := by
  cases hw : (x.store.writeRecord g ids r).result with
  | error e =>
    rw [Writer.stage_of_error hw] at hid
    cases hid
  | ok written =>
    rw [Writer.stage_of_ok hw] at hid ⊢
    cases hid
    refine ⟨h.isWrittenUnder_of_writeRecord hg hw, fun hfits => ?_⟩
    obtain ⟨hd, -⟩ := h.hasIdentity_of_writeRecord hw
    have hput : (L.write RecordId.FitsTerm x.store (x.store.writeRecord g ids r)).staged written.1 =
        ((some written.2.document).toList : Multiset Document) := by
      rw [Ledger.write, hw, hd]
      exact Book.put_self hfits _ _
    exact ⟨written.2.document, hd, looksUp_of_keeps h hblank hP hcolumn hnames hlimit
      (hkeeps.push_write h hw) (Store.ne_empty_of_writeRecord hg hw) hfits hput⟩

/-- **An identity leads to the last record that was written under it.** After any calls on a new
index, a commit and a refresh, a searcher finds under an identity the record of the last document
that was written under it and not deleted, and nothing if there is none. A record that is staged or
saved gets the identity of the write or keeps the one that it has, and is found under it. -/
theorem looksUp_of_run (g : IdGenerator σ) (hg : ∀ ids, (g.next ids).1.text ≠ "") (ids : σ)
    (ops : List (Operation ρ)) :
    let s := x.store
    let map := (Ledger.empty.run (fun _ => True) s g ids (ops ++ [.commit])).1.published
    let index := (s.newWriter.run s g ids (ops ++ [.commit])).1.index
    let w := (s.newWriter.run s g ids ops).1
    (∀ id, id.text ≠ "" → id.FitsTerm →
      ∃ d? : Option Document, map id = d?.toList ∧ x.LooksUp P index id d?) ∧
    ∀ ids' r id,
      let staged := w.stage s g ids' r
      let saved := w.save s g ids' r
      saved.2 = staged.2 ∧ (staged.2.result = .ok id →
        s.IsWrittenUnder r staged.2.record id ∧
        (id.FitsTerm → ∃ d, s.schema.toDocument staged.2.record none = .ok d ∧
          x.LooksUp P staged.1.commit.index id (some d) ∧
          x.LooksUp P saved.1.index id (some d))) := by
  intro s map index w
  have hkeeps := s.newWriter_keeps.run (g := g) h ids ops
  refine ⟨fun id hne hfits => ?_, fun ids' r id => ⟨w.save_snd s g ids' r, fun hid => ?_⟩⟩
  · have hone : Ledger.AtMostOne id (Ledger.empty.run (fun _ => True) s g ids ops).1 :=
      (Ledger.atMostOne_empty id).run trivial s g ids ops
    have hsame : Ledger.SameOf id (Ledger.empty.run RecordId.FitsTerm s g ids ops).1
        (Ledger.empty.run (fun _ => True) s g ids ops).1 :=
      Ledger.SameOf.run (iff_of_true hfits trivial) ⟨rfl, rfl⟩ s g ids ops
    obtain ⟨d?, hd⟩ : ∃ d? : Option Document,
        (Ledger.empty.run (fun _ => True) s g ids ops).1.staged id = d?.toList := by
      rcases Nat.le_one_iff_eq_zero_or_eq_one.mp hone.2 with hzero | hone
      · exact ⟨none, Multiset.card_eq_zero.mp hzero⟩
      · obtain ⟨d, hd⟩ := Multiset.card_eq_one.mp hone
        exact ⟨some d, hd⟩
    refine ⟨d?, ?_, ?_⟩
    · simp only [map, Ledger.run_append_commit]
      exact hd
    · simp only [index, Writer.run_append_commit]
      exact looksUp_of_keeps h hblank hP hcolumn hnames hlimit hkeeps hne hfits (hsame.2.trans hd)
  · obtain ⟨hwritten, hlooks⟩ := looksUp_of_stage h hblank hP hcolumn hnames hlimit hkeeps hg hid
    refine ⟨hwritten, fun hfits => ?_⟩
    obtain ⟨d, hd, hlooks⟩ := hlooks hfits
    exact ⟨d, hd, hlooks, by rw [Writer.save_fst_of_ok hid]; exact hlooks⟩

end

/-! ### Shops -/

/-- The identity of shops. -/
def shopId : Property Shop :=
  Shop.description.properties.get ⟨0, by decide⟩

open Store.IsMadeFor in
/-- Calls that replace one shop, delete another and leave a third without an identity. -/
def shopCalls : List (Operation Shop) :=
  [.save (shopOf "a"), .stage (shopOf "b"), .stage (numberedShop 1), .deleteById ⟨"b"⟩,
    .save { numberedShop 2 with id := ⟨"a"⟩ }, .stage (shopOf "a"), .rollback]

/-- Under the identity of the shop that was replaced the second one is found, under that of the one
that was deleted none, and the one without an identity under the one that it was given; so is one
that is staged afterwards. -/
theorem looksUp_of_run_shops :
    let s := Store.IsMadeFor.shops
    let x := s.newSearcher Shop.recordType
    let index := (s.newWriter.run s (.numbered "s") 0 (shopCalls ++ [.commit])).1.index
    let staged := (s.newWriter.run s (.numbered "s") 0 shopCalls).1.stage s (.numbered "s") 1
      (numberedShop 3)
    (∃ d? : Option Document, x.LooksUp shopId index ⟨"a"⟩ d?) ∧
    ((x.refresh index).toOption.map fun y =>
      ["a", "b", "s1"].map fun id =>
        (y.searchByField "id" id).toOption.map (Option.map Shop.name)) =
      some [some (some "shop-2"), some none, some (some "shop-1")] ∧
    s.IsWrittenUnder (numberedShop 3) staged.2.record ⟨"s2"⟩ ∧
    ∃ d, x.LooksUp shopId staged.1.commit.index ⟨"s2"⟩ (some d) := by
  intro s x index staged
  obtain ⟨hlooks, hwrites⟩ := looksUp_of_run (x := x) Store.IsMadeFor.isMadeFor_shops rfl
    (P := shopId) (List.get_mem _ _) rfl (by decide) (by decide) (.numbered "s")
    (fun n => by simp [IdGenerator.numbered]) 0 shopCalls
  obtain ⟨d?, -, hd⟩ := hlooks ⟨"a"⟩ (by decide) (by decide)
  obtain ⟨-, hstaged⟩ := hwrites 1 (numberedShop 3) ⟨"s2"⟩
  obtain ⟨hwritten, hfinds⟩ := hstaged rfl
  obtain ⟨d, -, hlooks, -⟩ := hfinds (by decide)
  exact ⟨⟨d?, hd⟩, by decide +kernel, hwritten, d, hlooks⟩

end Searcher

end Catalog
