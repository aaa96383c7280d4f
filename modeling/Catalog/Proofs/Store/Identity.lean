import Catalog.Proofs.Record.RoundTrip
import Catalog.Store.Writer

/-!
# Identities in documents and entries

The document of a record has its identity in the field of that name and nowhere else, so the entry
of the document is found under the term of its identity, if that is not too long to be a term, and
under no other term of the field.

## Main definitions

* `RecordId.FitsTerm`: whether entries are found under an identity
* `Document.identity?`: the identity that a document carries
* `Entry.HasIdentity`: an entry that is found under its identity only
* `Store.IsBuiltFor`, `Store.IsMadeFor`: a store with an index that was made for records, and for
  records with an identity

## Main results

* `Store.IsMadeFor.hasIdentity_of_entry`: the entry of a record has the identity of the record
* `Store.IsMadeFor.hasIdentity_of_writeRecord`: so has the entry that a record is written with
-/

namespace Catalog

/-- Whether an identity is short enough to be a term, so that what carries it is found by it. -/
def RecordId.FitsTerm (id : RecordId) : Prop :=
  id.text.utf8ByteSize ≤ longestTermBytes

instance (id : RecordId) : Decidable id.FitsTerm :=
  inferInstanceAs (Decidable (_ ≤ _))

/-- The identity that a document carries in a field. -/
def Document.identity? (d : Document) (field : String) : Option RecordId :=
  match d.first? field with
  | some (.text t) => some ⟨t⟩
  | _ => none

/-- An entry that is found in a field under its identity, if that is short enough, and under nothing
else. -/
structure Entry.HasIdentity (e : Entry) (field : String) (id : RecordId) : Prop where
  identity?_document : e.document.identity? field = some id
  terms_eq : e.terms field = if id.FitsTerm then [.text id.text] else []

/-! ### Terms of a field -/

theorem StoreField.field_of_mem_postings {f : StoreField} {analyzer : Analyzer} {value : Payload}
    {p : Posting} (h : p ∈ f.postings analyzer value) : p.field = f.name := by
  unfold StoreField.postings at h
  split at h
  · exact absurd h List.not_mem_nil
  · split at h
    · rw [List.mem_singleton.mp h]
    · exact absurd h List.not_mem_nil
  · rw [List.mem_singleton.mp h]
  · obtain ⟨t, -, rfl⟩ := List.mem_map.mp h
    rfl
  · exact absurd h List.not_mem_nil

/-- A text that is indexed as a whole has one posting, unless it is too long. -/
theorem StoreField.postings_raw_text (name : String) (analyzer : Analyzer) (id : RecordId) :
    (StoreField.raw name .text).postings analyzer (.text id.text) =
      if id.FitsTerm then [⟨name, 0, .text id.text⟩] else [] := rfl

/-- The postings of a named value. -/
def namedPostings (fields : List StoreField) (analyzer : Analyzer) (e : String × Payload) :
    List Posting :=
  match fields.find? fun f => f.name == e.1 with
  | some f => f.postings analyzer e.2
  | none => []

theorem postings_ofDocument (fields : List StoreField) (analyzer : Analyzer) (d : Document) :
    (Entry.ofDocument fields analyzer d).postings =
      d.values.flatMap (namedPostings fields analyzer) := rfl

theorem field_of_mem_namedPostings {fields : List StoreField} {analyzer : Analyzer}
    {e : String × Payload} {p : Posting} (h : p ∈ namedPostings fields analyzer e) :
    p.field = e.1 := by
  unfold namedPostings at h
  cases hf : fields.find? fun f => f.name == e.1 with
  | none => rw [hf] at h; exact absurd h List.not_mem_nil
  | some f =>
    rw [hf] at h
    have hname : f.name = e.1 := by simpa using List.find?_some hf
    rw [StoreField.field_of_mem_postings h, hname]

/-- Of the postings of a named value a field has all, if it is the field of the value, or none. -/
theorem filter_namedPostings (fields : List StoreField) (analyzer : Analyzer)
    (e : String × Payload) (name : String) :
    (namedPostings fields analyzer e).filter (fun p => p.field == name) =
      if e.1 == name then namedPostings fields analyzer e else [] := by
  split
  · next heq =>
    rw [List.filter_eq_self]
    intro p hp
    rw [field_of_mem_namedPostings hp]
    exact heq
  · next hne =>
    rw [List.filter_eq_nil_iff]
    intro p hp
    rw [field_of_mem_namedPostings hp]
    exact hne

/-- The terms of a field are those of the values that the document has for it. -/
theorem Entry.terms_ofDocument (fields : List StoreField) (analyzer : Analyzer) (d : Document)
    (name : String) :
    (Entry.ofDocument fields analyzer d).terms name =
      ((d.values.filter fun e => e.1 == name).flatMap (namedPostings fields analyzer)).map
        Posting.term := by
  rw [Entry.terms, postings_ofDocument]
  congr 1
  induction d.values with
  | nil => rfl
  | cons e values ih =>
    rw [List.flatMap_cons, List.filter_append, ih, filter_namedPostings, List.filter_cons]
    split <;> rfl

/-! ### The property that is the identity -/

namespace PropertyType

variable {α : Type} (t : PropertyType α)

/-- What an identity reads from an identity is written as that identity. -/
theorem toField_of_ofField_id (hk : t.kind = .identity) {id : RecordId} {a : α}
    (h : t.fieldType.ofField (.id id) = .ok a) : t.toField a = .ok (some (.id id)) := by
  induction t with
  | recordId =>
    cases h
    rfl
  | option t ih =>
    have h : (t.fieldType.ofField (.id id)).map some = .ok a := h
    cases hb : t.fieldType.ofField (.id id) with
    | error e => rw [hb] at h; exact absurd h (by simp [Except.map])
    | ok b =>
      rw [hb] at h
      cases h
      exact ih hk hb
  | _ => cases hk

/-- An identity that is present is written as an identity. -/
theorem exists_id_of_toField (hk : t.kind = .identity) {a : α} {v : FieldValue}
    (h : t.toField a = .ok (some v)) : ∃ id, v = .id id := by
  have hv := (t.kind_of_toField h).trans hk
  cases v with
  | id i => exact ⟨i, rfl⟩
  | _ => cases hv

end PropertyType

variable {ρ : Type}

namespace RecordDescription

variable {R : RecordDescription ρ} {s : Schema ρ}

/-- The identity column of a schema is the column of a property of that kind. -/
theorem exists_identity_property (hs : Schema.build R.recordType = .ok s) {c : Column ρ}
    (hc : s.identityColumn? = some c) :
    ∃ P ∈ R.properties, P.column = c ∧ P.type.kind = .identity := by
  have hmem := List.mem_of_find?_eq_some hc
  rw [columns_of_build hs, List.mem_map] at hmem
  obtain ⟨P, hP, rfl⟩ := hmem
  refine ⟨P, hP, rfl, ?_⟩
  have hidentity := List.find?_some hc
  rw [← P.binding_kind]
  exact beq_iff_eq.mp hidentity

end RecordDescription

/-! ### Stores of records -/

/-- A store whose index was made for records of a type. -/
structure Store.IsBuiltFor (s : Store ρ) (R : RecordDescription ρ) : Prop where
  build : Schema.build R.recordType = .ok s.schema
  fields_eq : s.fields = s.schema.storeFields
  nodup : (s.schema.storeFields.map StoreField.name).Nodup

/-- A store whose index was made for records of a type that has an identity. -/
structure Store.IsMadeFor (s : Store ρ) (R : RecordDescription ρ) : Prop
    extends s.IsBuiltFor R where
  isSome_identity : s.schema.identityColumn?.isSome

theorem find?_name_of_mem {fields : List StoreField} (hnodup : (fields.map StoreField.name).Nodup)
    {f : StoreField} (hf : f ∈ fields) : (fields.find? fun g => g.name == f.name) = some f := by
  induction fields with
  | nil => exact absurd hf List.not_mem_nil
  | cons g fields ih =>
    rw [List.map_cons, List.nodup_cons] at hnodup
    rcases List.mem_cons.mp hf with rfl | hf
    · rw [List.find?_cons_of_pos (by simp)]
    · have hne : g.name ≠ f.name := fun heq => hnodup.1 (heq ▸ List.mem_map_of_mem hf)
      rw [List.find?_cons_of_neg (by simpa using hne), ih hnodup.2 hf]

/-- The fields of the bindings are found in the index. -/
theorem Store.IsBuiltFor.find?_field {s : Store ρ} {R : RecordDescription ρ} (h : s.IsBuiltFor R)
    {P : Property ρ} (hP : P ∈ R.properties) {f : StoreField} (hf : f ∈ P.binding.storeFields) :
    (s.fields.find? fun g => g.name == f.name) = some f := by
  have hmem : f ∈ s.fields := by
    rw [h.fields_eq, Schema.storeFields, storeFieldsOf]
    refine List.mem_append_right _ (List.mem_flatMap.mpr ⟨P.binding, ?_, hf⟩)
    exact List.mem_map_of_mem (RecordDescription.column_mem_of_build h.build hP)
  have hnodup : (s.fields.map StoreField.name).Nodup := h.fields_eq ▸ h.nodup
  exact find?_name_of_mem hnodup hmem

/-! ### What a record is written with -/

/-- The entry of a record is that of its document. -/
theorem Store.entry_eq_ok_iff {s : Store ρ} {r : ρ} {implicit : Option RecordId} {e : Entry} :
    s.entry r implicit = .ok e ↔ s.schema.toDocument r implicit = .ok e.document ∧
      e = Entry.ofDocument s.fields s.config.analyzer e.document := by
  rw [entry]
  cases s.schema.toDocument r implicit with
  | error err => exact iff_of_false nofun nofun
  | ok d =>
    constructor
    · rintro ⟨⟩
      exact ⟨rfl, rfl⟩
    · rintro ⟨hd, he⟩
      rw [Except.ok.injEq] at hd
      rw [he, ← hd]
      rfl

theorem Store.entryUnder_eq_ok_iff {s : Store ρ} {r : ρ} {own id : RecordId}
    {implicit : Option RecordId} {e : Entry} :
    s.entryUnder r own implicit = .ok (id, e) ↔ id = own ∧ s.entry r implicit = .ok e := by
  rw [entryUnder]
  cases s.entry r implicit with
  | error e => exact iff_of_false nofun nofun
  | ok e =>
    constructor
    · rintro ⟨⟩
      exact ⟨rfl, rfl⟩
    · rintro ⟨rfl, ⟨⟩⟩
      rfl

namespace Store.IsMadeFor

variable {s : Store ρ} {R : RecordDescription ρ} (h : s.IsMadeFor R)

include h

theorem exists_identity : ∃ P ∈ R.properties, s.schema.identityColumn? = some P.column ∧
    P.type.kind = .identity := by
  obtain ⟨c, hc⟩ := Option.isSome_iff_exists.mp h.isSome_identity
  obtain ⟨P, hP, rfl, hk⟩ := RecordDescription.exists_identity_property h.build hc
  exact ⟨P, hP, hc, hk⟩

omit h in
theorem identityField_eq {P : Property ρ} (hP : s.schema.identityColumn? = some P.column) :
    s.schema.identityField = P.binding.field := by
  rw [Schema.identityField, Schema.identity?, hP]
  rfl

/-- The field of the identity is a text that is indexed as a whole. -/
theorem find?_identityField {P : Property ρ} (hP : P ∈ R.properties)
    (hk : P.type.kind = .identity) :
    (s.fields.find? fun f => f.name == P.binding.field) =
      some (.raw P.binding.field .text) := by
  refine h.find?_field hP (f := .raw P.binding.field .text) ?_
  have htype : P.binding.kind.storeType = .text := by rw [P.binding_kind, hk]; rfl
  rw [Binding.storeFields, htype]
  exact List.mem_append_left _ (List.mem_cons_self ..)

/-- **The entry of a record has the identity of the record.** -/
theorem hasIdentity_of_entry {P : Property ρ} (hP : P ∈ R.properties)
    (hcolumn : s.schema.identityColumn? = some P.column) (hk : P.type.kind = .identity) {r : ρ}
    {id : RecordId} (hid : P.type.toField (P.get r) = .ok (some (.id id))) {e : Entry}
    (he : s.entry r none = .ok e) :
    s.schema.toDocument r none = .ok e.document ∧
      e.HasIdentity s.schema.identityField id := by
  obtain ⟨hd, hentry⟩ := Store.entry_eq_ok_iff.mp he
  obtain ⟨part, hpart, hfilter⟩ := filter_toDocument h.nodup (.inl rfl) hd
    (RecordDescription.column_mem_of_build h.build hP)
  have hfilter : e.document.values.filter (fun v => v.1 == P.binding.field) =
      [(P.binding.field, .text id.text)] :=
    hfilter.trans (by rw [Property.values_column_of_toField hid hpart]; rfl)
  refine ⟨hd, ?_, ?_⟩
  · rw [identityField_eq hcolumn, Document.identity?, Document.first?, ← List.head?_filter, hfilter]
    rfl
  · rw [hentry, identityField_eq hcolumn, Entry.terms_ofDocument, hfilter, List.flatMap_singleton,
      namedPostings, h.find?_identityField hP hk]
    show ((StoreField.raw P.binding.field .text).postings _ (.text id.text)).map _ = _
    rw [StoreField.postings_raw_text]
    split <;> rfl

omit h in
theorem toField_of_recordIdentity {P : Property ρ}
    (hcolumn : s.schema.identityColumn? = some P.column) (hk : P.type.kind = .identity) {r : ρ}
    {id : RecordId} (hr : s.schema.recordIdentity r = .ok (some id)) :
    P.type.toField (P.get r) = .ok (some (.id id)) := by
  unfold Schema.recordIdentity at hr
  rw [hcolumn] at hr
  change (P.type.toField (P.get r)).map _ = _ at hr
  cases hv : P.type.toField (P.get r) with
  | error e => rw [hv] at hr; exact absurd hr (by simp [Except.map])
  | ok o =>
    rw [hv] at hr
    cases o with
    | none => exact absurd hr (by simp [Except.map])
    | some v =>
      obtain ⟨i, rfl⟩ := P.type.exists_id_of_toField hk hv
      simp only [Except.map, Except.ok.injEq] at hr
      split at hr
      · exact absurd hr (by simp)
      · cases hr
        rfl

theorem hasIdentity_of_entryUnder {P : Property ρ} (hP : P ∈ R.properties)
    (hcolumn : s.schema.identityColumn? = some P.column) (hk : P.type.kind = .identity) {r : ρ}
    {id id' : RecordId} (hid : P.type.toField (P.get r) = .ok (some (.id id))) {e : Entry}
    (hw : s.entryUnder r id none = .ok (id', e)) :
    s.schema.toDocument r none = .ok e.document ∧ e.HasIdentity s.schema.identityField id' := by
  obtain ⟨rfl, he⟩ := Store.entryUnder_eq_ok_iff.mp hw
  exact h.hasIdentity_of_entry hP hcolumn hk hid he

/-- **What a record is written with**: the entry of the record as it is given back, which has the
identity that the record is written under. -/
theorem hasIdentity_of_writeRecord {σ : Type} {g : IdGenerator σ} {ids : σ} {r : ρ} {id : RecordId}
    {e : Entry} (hw : (s.writeRecord g ids r).result = .ok (id, e)) :
    s.schema.toDocument (s.writeRecord g ids r).record none = .ok e.document ∧
      e.HasIdentity s.schema.identityField id := by
  obtain ⟨P, hP, hcolumn, hk⟩ := h.exists_identity
  unfold Store.writeRecord at hw ⊢
  simp only [hcolumn] at hw ⊢
  cases hr : s.schema.recordIdentity r with
  | error e => rw [hr] at hw; exact absurd hw (by simp)
  | ok o =>
    rw [hr] at hw
    cases o with
    | some own =>
      exact h.hasIdentity_of_entryUnder hP hcolumn hk (toField_of_recordIdentity hcolumn hk hr) hw
    | none =>
      -- The new identity is written into the record, which then has it.
      simp only at hw ⊢
      have hwrite : P.column.accessor.write r (.id (g.next ids).1) =
          (P.type.fieldType.ofField (.id (g.next ids).1)).map (P.set r) := rfl
      rw [hwrite] at hw ⊢
      cases ha : P.type.fieldType.ofField (.id (g.next ids).1) with
      | error e => rw [ha] at hw; exact absurd hw (by simp [Except.map])
      | ok a =>
        rw [ha] at hw
        have hid : P.type.toField (P.get (P.set r a)) = .ok (some (.id (g.next ids).1)) := by
          rw [P.get_set]
          exact P.type.toField_of_ofField_id hk ha
        exact h.hasIdentity_of_entryUnder hP hcolumn hk hid hw

end Store.IsMadeFor

end Catalog
