import Catalog.Proofs.Store.Steps

/-!
# Entries of records

Every entry of an index, struck out or not, was made from the document of a record. In the field of
an analyzed property it has the terms of the text that the record has for the property.

An entry has the whole document, with the texts that an index takes apart into words and does not
store. A store of records has its properties in fields that are stored, so it reads the same of what
is stored as of the whole.

## Main definitions

* `Store.IsEntryOf`, `Store.IsEntry`: the entries of a record, and of records
* `Writer.Forall`: a writer all of whose entries have a property
* `Document.kept`: what is left of a document where only stored fields are kept

## Main results

* `Store.isEntryOf_of_writeRecord`: what a record is written with
* `Writer.Forall.step`: what holds of all entries that are written holds of all that there are
* `Writer.forall_isEntry_of_steps`: after any steps on a new index its entries are those of records
* `Store.IsBuiltFor.terms_textField`: the terms of an analyzed property
* `Store.IsBuiltFor.ofDocument_kept`: the record of a document is that of what is stored of it
-/

namespace Catalog

variable {σ ρ : Type}

/-! ### What a record is written with -/

/-- Where no column is the identity an implicit one may be written. -/
theorem Schema.admits_of_identityColumn? {s : Schema ρ} (h : s.identityColumn? = none)
    (implicit : Option RecordId) : s.Admits implicit := by
  right
  rw [bindings, List.any_map, List.any_eq_false]
  exact List.find?_eq_none.mp h

/-- The entry of a record, with an implicit identity only where no property is the identity. -/
def Store.IsEntryOf (s : Store ρ) (r : ρ) (e : Entry) : Prop :=
  ∃ implicit, s.schema.Admits implicit ∧ s.entry r implicit = .ok e

/-- **What a record is written with**: its entry, under the identity of the record, which stays as
it is, or under a new identity, if the record has none. -/
theorem Store.isEntryOf_of_writeRecord {s : Store ρ} {g : IdGenerator σ} {ids : σ} {r : ρ}
    {id : RecordId} {e : Entry} (h : (s.writeRecord g ids r).result = .ok (id, e)) :
    s.IsEntryOf (s.writeRecord g ids r).record e ∧
      (s.schema.recordIdentity r = .ok (some id) ∧ (s.writeRecord g ids r).record = r ∨
        s.schema.recordIdentity r = .ok none ∧ id = (g.next ids).1) := by
  cases hc : s.schema.identityColumn? with
  | none =>
    simp only [writeRecord, hc] at h ⊢
    have hnone : s.schema.recordIdentity r = .ok none := by rw [Schema.recordIdentity, hc]
    obtain ⟨hid, he⟩ := entryUnder_eq_ok_iff.mp h
    exact ⟨⟨_, s.schema.admits_of_identityColumn? hc _, he⟩, .inr ⟨hnone, hid⟩⟩
  | some c =>
    cases hr : s.schema.recordIdentity r with
    | error e =>
      simp only [writeRecord, hc, hr] at h
      cases h
    | ok own? =>
      cases own? with
      | some own =>
        simp only [writeRecord, hc, hr] at h ⊢
        obtain ⟨hid, he⟩ := entryUnder_eq_ok_iff.mp h
        exact ⟨⟨_, .inl rfl, he⟩, .inl ⟨by rw [hid], trivial⟩⟩
      | none =>
        simp only [writeRecord, hc, hr] at h ⊢
        cases hw : c.accessor.write r (.id (g.next ids).1) with
        | error e =>
          rw [hw] at h
          cases h
        | ok r' =>
          rw [hw] at h
          obtain ⟨hid, he⟩ := entryUnder_eq_ok_iff.mp h
          exact ⟨⟨_, .inl rfl, he⟩, .inr ⟨trivial, hid⟩⟩

/-! ### What all entries have in common -/

/-- The entry of some record. -/
def Store.IsEntry (s : Store ρ) (e : Entry) : Prop :=
  ∃ r, s.IsEntryOf r e

theorem Store.IsEntry.eq_ofDocument {s : Store ρ} {e : Entry} (h : s.IsEntry e) :
    e = Entry.ofDocument s.fields s.config.analyzer e.document := by
  obtain ⟨r, implicit, -, he⟩ := h
  exact (entry_eq_ok_iff.mp he).2

namespace Writer

/-- All entries of a writer, committed and pending ones, have a property. -/
structure Forall (p : Entry → Prop) (w : Writer) : Prop where
  committed : ∀ slot ∈ w.index.slots, p slot.entry
  pending : ∀ e, .add e ∈ w.pending → p e

namespace Forall

variable {p : Entry → Prop} {w : Writer}

theorem commit (h : w.Forall p) : w.commit.Forall p where
  committed slot hslot := by
    refine Draft.forall_foldl_apply (d := ⟨w.index.segments, []⟩) ?_ h.pending slot
      (Index.mem_slots_of_commit hslot)
    rw [Draft.slots, List.append_nil]
    exact h.committed
  pending _ he := absurd he List.not_mem_nil

theorem rollback (h : w.Forall p) : w.rollback.Forall p where
  committed := h.committed
  pending _ he := absurd he List.not_mem_nil

theorem pushDeletion (h : w.Forall p) {s : Store ρ} (id : RecordId) :
    (w.push [s.identityDeletion id]).Forall p where
  committed := h.committed
  pending e he := (List.mem_append.mp he).elim (h.pending e) fun he => by
    cases List.mem_singleton.mp he

theorem pushEntry (h : w.Forall p) {e : Entry} (he : p e) : (w.push [.add e]).Forall p where
  committed := h.committed
  pending e' he' := (List.mem_append.mp he').elim (h.pending e') fun he' => by
    cases List.mem_singleton.mp he'
    exact he

theorem merged (h : w.Forall p) : ({ w with index := w.index.merged } : Writer).Forall p where
  committed slot hslot := h.committed slot (Index.mem_slots_of_merged hslot)
  pending := h.pending

theorem clear (h : w.Forall p) : w.clear.1.Forall p := by
  have hcleared : ({ w with index := w.index.cleared } : Writer).Forall p :=
    ⟨fun _ hslot => absurd hslot List.not_mem_nil, h.pending⟩
  exact hcleared.commit

/-- **A step keeps what all entries have in common**, if it holds of all that may be written. -/
theorem step {s : Store ρ} {g : IdGenerator σ}
    (hwrite : ∀ (ids : σ) (r : ρ) (id : RecordId) (e : Entry),
      (s.writeRecord g ids r).result = .ok (id, e) → p e)
    {w' : Writer} (h : w.Forall p) (hstep : Step s g w w') : w'.Forall p := by
  cases hstep with
  | write hw => exact (h.pushDeletion _).pushEntry (hwrite _ _ _ _ hw)
  | delete id => exact (h.pushDeletion id).commit
  | commit => exact h.commit
  | rollback => exact h.rollback
  | merge => exact h.merged
  | clear => exact h.clear

end Forall

/-- **After any steps on a new index its entries are those of records.** -/
theorem forall_isEntry_of_steps {s : Store ρ} {g : IdGenerator σ} {w : Writer}
    (h : Steps s g s.newWriter w) : w.Forall s.IsEntry := by
  refine forall_of_steps (fun w w' hw => hw.step fun _ _ _ _ hwrite =>
    ⟨_, (Store.isEntryOf_of_writeRecord hwrite).1⟩) ?_ h
  exact ⟨fun _ hslot => absurd hslot List.not_mem_nil, fun _ he => absurd he List.not_mem_nil⟩

end Writer

/-- After any calls on a new index its entries are those of records. -/
theorem Store.isEntry_of_mem_run (s : Store ρ) (g : IdGenerator σ) (ids : σ)
    (ops : List (Operation ρ)) :
    ∀ slot ∈ (s.newWriter.run s g ids ops).1.index.slots, s.IsEntry slot.entry :=
  (Writer.forall_isEntry_of_steps (s.newWriter.steps_run s g ids ops)).committed

/-- The entries of a document of a record are entries of that record. -/
theorem Store.isEntryOf_of_mem_runCalls (s : Store ρ) (g : IdGenerator σ) (ids : σ)
    (calls : List (Call ρ)) {r : ρ} {implicit : Option RecordId} {doc : Document}
    (himplicit : s.schema.Admits implicit) (hdoc : s.schema.toDocument r implicit = .ok doc) :
    ∀ slot ∈ (s.newWriter.runCalls s g ids calls).1.index.slots, slot.entry.document = doc →
      s.IsEntryOf r slot.entry := by
  rintro slot hslot rfl
  have hentries := Writer.forall_isEntry_of_steps (s.newWriter.steps_runCalls s g ids calls)
  exact ⟨implicit, himplicit, Store.entry_eq_ok_iff.mpr
    ⟨hdoc, (hentries.committed slot hslot).eq_ofDocument⟩⟩

/-! ### The terms of analyzed properties -/

/-- The field of an analyzed binding that is indexed word by word. -/
theorem Binding.analysisField?_of_analyzed {b : Binding} (hb : b.role = .analyzed) :
    b.analysisField? = some b.textField := by
  rw [textField, analysisField?, if_pos hb]
  rfl

theorem Binding.spatial?_of_analyzed {b : Binding} (hb : b.role = .analyzed) :
    b.spatial? = none := by
  rw [spatial?, if_neg (by rw [hb]; decide)]

/-- An analyzed property that is present is written twice: as it is, and as a text. -/
theorem Property.values_of_analyzed {P : Property ρ} (hrole : P.binding.role = .analyzed) {r : ρ}
    {v : FieldValue} (hv : P.type.toField (P.get r) = .ok (some v)) :
    P.column.values r =
      .ok [(P.binding.field, v.payload), (P.binding.textField, .text v.payload.toText)] := by
  have hread : P.column.accessor.read r = .ok (some v) := hv
  have hencode : P.column.binding.kind.encode v = .ok v.payload := by
    rw [show P.column.binding.kind = v.kind from
      P.binding_kind.trans (P.type.kind_of_toField hv).symm, v.encode_kind]
  have hspatial : P.column.binding.spatialValues v = [] := by
    unfold Binding.spatialValues
    rw [show P.column.binding.spatial? = none from Binding.spatial?_of_analyzed hrole]
  simp only [Column.values, hread, hencode, hspatial,
    show P.column.binding.analysisField? = some P.binding.textField from
      Binding.analysisField?_of_analyzed hrole]
  rfl

/-- The field of an analyzed property that is indexed word by word is found in the index. -/
theorem Store.IsBuiltFor.find?_textField {s : Store ρ} {R : RecordDescription ρ}
    (h : s.IsBuiltFor R) {P : Property ρ} (hP : P ∈ R.properties)
    (hrole : P.binding.role = .analyzed) :
    (s.fields.find? fun f => f.name == P.binding.textField) =
      some ⟨P.binding.textField, .text, .words, false, false⟩ := by
  refine h.find?_field hP (f := ⟨P.binding.textField, .text, .words, false, false⟩) ?_
  rw [Binding.storeFields, Binding.analysisField?_of_analyzed hrole]
  exact List.mem_append_left _ (List.mem_cons_of_mem _ (List.mem_singleton_self _))

/-- **The terms of an analyzed property** are those of the text that is written for it. -/
theorem Store.IsBuiltFor.terms_textField {s : Store ρ} {R : RecordDescription ρ}
    (h : s.IsBuiltFor R) {P : Property ρ} (hP : P ∈ R.properties)
    (hrole : P.binding.role = .analyzed) {r : ρ} {implicit : Option RecordId}
    (himplicit : s.schema.Admits implicit) {d : Document}
    (hd : s.schema.toDocument r implicit = .ok d) {v : FieldValue}
    (hv : P.type.toField (P.get r) = .ok (some v)) (a : Analyzer) :
    (Entry.ofDocument s.fields a d).terms P.binding.textField =
      (a.analyze v.payload.toText).map Payload.text := by
  have hcolumn := RecordDescription.column_mem_of_build h.build hP
  have hname := P.binding.textField_mem_fieldNames
  obtain ⟨part, hpart, hfilter⟩ := filter_toDocument_of_mem h.nodup himplicit hd hcolumn hname
  rw [Property.values_of_analyzed hrole hv, Except.ok.injEq] at hpart
  have hfield : P.binding.field ≠ P.binding.textField := by
    have hnodup : P.binding.fieldNames.Nodup :=
      (List.nodup_flatMap.mp (Schema.nodup_fieldNames h.nodup)).1 _ hcolumn
    rw [Binding.fieldNames_eq, Binding.analysisField?_of_analyzed hrole] at hnodup
    exact fun heq => (List.nodup_cons.mp hnodup).1
      (heq ▸ List.mem_append_left _ (List.mem_singleton_self _))
  rw [← hpart, List.filter_cons_of_neg (by simpa using hfield),
    List.filter_cons_of_pos (by simp), List.filter_nil] at hfilter
  rw [Entry.terms_ofDocument, hfilter, List.flatMap_singleton, namedPostings,
    h.find?_textField hP hrole]
  simp only [StoreField.postings, Analyzer.analyze, List.map_map]
  rfl

/-! ### What is stored -/

/-- What is left of a document where only the stored fields of an index are kept. -/
def Document.kept (d : Document) (fields : List StoreField) : Document :=
  ⟨d.values.filter fun e => (fields.find? fun f => f.name == e.1).any StoreField.stored⟩

/-- A stored field has the first value that it had. -/
theorem Document.first?_kept {fields : List StoreField} {field : String} {f : StoreField}
    (hf : (fields.find? fun g => g.name == field) = some f) (hstored : f.stored = true)
    (d : Document) : (d.kept fields).first? field = d.first? field := by
  rw [first?, first?, kept, ← List.head?_filter, ← List.head?_filter, List.filter_filter]
  refine congrArg (fun l : List (String × Payload) => l.head?.map Prod.snd)
    (List.filter_congr fun e _ => ?_)
  cases hname : e.1 == field with
  | false => rfl
  | true => rw [beq_iff_eq.mp hname, hf, Option.any_some, hstored]; rfl

/-- Documents that have the same first values have the same record. -/
theorem Schema.ofDocument_congr {s : Schema ρ} {d d' : Document}
    (h : ∀ c ∈ s.columns, d.first? c.binding.field = d'.first? c.binding.field) (blank : ρ) :
    s.ofDocument blank d = s.ofDocument blank d' := by
  have hfold (columns : List (Column ρ))
      (hcolumns : ∀ c ∈ columns, d.first? c.binding.field = d'.first? c.binding.field) (r : ρ) :
      columns.foldlM (Column.restore d.stored) r = columns.foldlM (Column.restore d'.stored) r := by
    induction columns generalizing r with
    | nil => rfl
    | cons c columns ih =>
      obtain ⟨hc, hcolumns⟩ := List.forall_mem_cons.mp hcolumns
      have hhead : Column.restore d.stored r c = Column.restore d'.stored r c := by
        rw [Column.restore, Column.restore, d.first?_stored, d'.first?_stored, hc]
      rw [List.foldlM_cons, List.foldlM_cons, hhead]
      exact bind_congr fun r' => ih hcolumns r'
  exact hfold s.columns h blank

/-- **The record of a document is that of what is stored of it**: every property is read from a
field that is stored. -/
theorem Store.IsBuiltFor.ofDocument_kept {s : Store ρ} {R : RecordDescription ρ}
    (h : s.IsBuiltFor R) (blank : ρ) (d : Document) :
    s.schema.ofDocument blank (d.kept s.fields) = s.schema.ofDocument blank d := by
  refine Schema.ofDocument_congr (fun c hc => ?_) blank
  rw [RecordDescription.columns_of_build h.build] at hc
  obtain ⟨P, hP, rfl⟩ := List.mem_map.mp hc
  exact Document.first?_kept (h.find?_field hP (List.mem_cons_self ..)) rfl d

end Catalog
