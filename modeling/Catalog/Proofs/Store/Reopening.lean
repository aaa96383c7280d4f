import Catalog.Proofs.Field.Accepted
import Catalog.Proofs.Store.Clearing
import Catalog.Session

/-!
# Reopening under another record type

An index is opened for a record type if it has the fields of the type, each with the right store
type. Nothing more is compared: not the kinds, and not the types that the properties have. So what
was written for one record type may be given back to another one that does not accept it. Then the
document is no record, and what is reported is the refusal of the first property that has a value it
does not accept; a value is never taken for one of another kind.

## Main definitions

* `Property.AcceptsIn`, `RecordDescription.Accepts`: the documents that properties can read

## Main results

* `Schema.exists_field_of_toDocument`: what a document has goes with the fields of its index
* `Session.start_eq_ok_iff`: when an index is opened for a record type
* `Session.decodes_of_start`: which documents of an index are records of the type it is opened for
-/

namespace Catalog

variable {σ ρ : Type}

/-! ### The types of stored values -/

/-- The points of a binding are kept in fields of their types. -/
theorem Binding.exists_field_of_spatialValues {b : Binding} {v : FieldValue}
    {e : String × Payload} (he : e ∈ b.spatialValues v) :
    ∃ f ∈ b.storeFields, f.name = e.1 ∧ f.type = e.2.type := by
  unfold Binding.spatialValues at he
  split at he
  · next f p hf =>
    have hmem (g : StoreField) (hg : g ∈ [⟨f.point, .text, .none, true, false⟩,
        StoreField.raw f.x .double, .raw f.y .double]) : g ∈ b.storeFields := by
      rw [storeFields, hf]
      exact List.mem_append_right _ hg
    simp only [SpatialFields.values, List.mem_cons, List.not_mem_nil, or_false] at he
    rcases he with rfl | rfl | rfl
    · exact ⟨_, hmem _ (List.mem_cons_self ..), rfl, rfl⟩
    · exact ⟨_, hmem _ (List.mem_cons_of_mem _ (List.mem_cons_self ..)), rfl, rfl⟩
    · exact ⟨_, hmem _ (List.mem_cons_of_mem _ (List.mem_cons_of_mem _ (List.mem_cons_self ..))),
        rfl, rfl⟩
  · exact absurd he List.not_mem_nil

/-- What a column writes goes with its fields. -/
theorem Column.exists_field_of_values {c : Column ρ} {r : ρ} {part : List (String × Payload)}
    (h : c.values r = .ok part) {e : String × Payload} (he : e ∈ part) :
    ∃ f ∈ c.binding.storeFields, f.name = e.1 ∧ f.type = e.2.type := by
  unfold Column.values at h
  split at h
  · cases h
  · cases h
    exact absurd he List.not_mem_nil
  · next v _ =>
    split at h
    · cases h
    · next p hp =>
      cases h
      rw [List.cons_append, List.mem_cons, List.mem_append] at he
      rcases he with rfl | he | he
      · exact ⟨_, List.mem_cons_self .., rfl, (FieldKind.type_of_encode hp).symm⟩
      · obtain ⟨n, hn, rfl⟩ := Option.mem_map.mp (Option.mem_toList.mp he)
        refine ⟨⟨n, .text, .words, false, false⟩, ?_, rfl, rfl⟩
        rw [Binding.storeFields, Option.mem_def.mp hn]
        exact List.mem_append_left _ (List.mem_cons_of_mem _ (List.mem_singleton_self _))
      · exact Binding.exists_field_of_spatialValues he

/-- **What a document has goes with the fields of its index**, in name and in type. -/
theorem Schema.exists_field_of_toDocument {s : Schema ρ} {r : ρ} {implicit : Option RecordId}
    (himplicit : s.Admits implicit) {d : Document} (h : s.toDocument r implicit = .ok d)
    {e : String × Payload} (he : e ∈ d.values) :
    ∃ f ∈ s.storeFields, f.name = e.1 ∧ f.type = e.2.type := by
  obtain ⟨parts, hparts, hvalues⟩ := toDocument_eq_ok h
  rw [hvalues, List.mem_append] at he
  rcases he with he | he
  · obtain ⟨id, hid, rfl⟩ := Option.mem_map.mp (Option.mem_toList.mp he)
    have hnone := himplicit.resolve_left (Option.ne_none_iff_exists'.mpr ⟨id, hid⟩)
    refine ⟨.raw implicitIdField .text, ?_, rfl, rfl⟩
    rw [storeFields, storeFieldsOf, hnone]
    exact List.mem_append_left _ (List.mem_singleton_self _)
  · obtain ⟨part, hpart, he⟩ := List.mem_flatten.mp he
    obtain ⟨c, hc, hvalues⟩ := (mem_iff_of_mapM hparts part).mp hpart
    obtain ⟨f, hf, hname⟩ := Column.exists_field_of_values hvalues he
    refine ⟨f, List.mem_append_right _ (List.mem_flatMap.mpr ⟨c.binding, ?_, hf⟩), hname⟩
    exact List.mem_map_of_mem hc

/-! ### Opening an index -/

theorem fieldMismatch?_eq_none_iff (path record : String) {found : List StoreField}
    {wanted : StoreField} : fieldMismatch? path record found wanted = none ↔
      ∃ f, (found.find? fun f => f.name == wanted.name) = some f ∧ f.type = wanted.type := by
  unfold fieldMismatch?
  cases found.find? fun f => f.name == wanted.name with
  | none => simp
  | some f => simp

/-- An index is a store of a record type just if it has the fields of the type. -/
theorem Store.ofIndex_eq_ok_iff {c : StoreConfig} {schema : Schema ρ} {i : Index} {s : Store ρ} :
    ofIndex c schema i = .ok s ↔
      (∀ wanted ∈ schema.storeFields, ∃ f,
        (i.fields.find? fun f => f.name == wanted.name) = some f ∧ f.type = wanted.type) ∧
      s = ⟨schema, c, i.fields⟩ := by
  rw [ofIndex]
  simp only [← fieldMismatch?_eq_none_iff (c.path schema.name) schema.name,
    ← List.findSome?_eq_none_iff]
  split
  · next e he => simp [he]
  · next he => simp [he, eq_comm]

/-- **When an index is opened for a record type**: the type has a schema, and the index has its
fields, each with the right store type. Whether a new index might have been made does not matter. -/
theorem Session.start_eq_ok_iff {mode : OpenMode} {c : StoreConfig} {R : RecordType ρ}
    {g : IdGenerator σ} {ids : σ} {i : Index} (hlisted : i.isListed = true)
    {session : Session σ ρ} :
    start mode c R g ids (some i) = .ok session ↔
      ∃ schema, Schema.build R = .ok schema ∧
        (∀ wanted ∈ schema.storeFields, ∃ f,
          (i.fields.find? fun f => f.name == wanted.name) = some f ∧ f.type = wanted.type) ∧
        session = ⟨R, ⟨schema, c, i.fields⟩, i, none, none, g, ids⟩ := by
  cases hbuild : Schema.build R with
  | error e =>
    rw [start, hbuild]
    exact iff_of_false nofun fun ⟨_, h, _⟩ => nomatch h
  | ok schema =>
    have hfound : Store.indexToOpen schema (some i) = i := by
      simp [Store.indexToOpen, Option.filter, hlisted]
    have hopened : Store.opened mode c schema (some i) = (Store.ofIndex c schema i).map (·, i) := by
      cases mode <;> simp [Store.opened, Store.openExisting, Store.openOrCreate, hfound,
        Option.filter, hlisted]
    have hstart : start mode c R g ids (some i) =
        (Store.ofIndex c schema i).map fun s => ⟨R, s, i, none, none, g, ids⟩ := by
      rw [start, hbuild]
      show (Store.opened mode c schema (some i)).bind _ = _
      rw [hopened]
      cases Store.ofIndex c schema i <;> rfl
    rw [hstart]
    cases hindex : Store.ofIndex c schema i with
    | error e =>
      refine iff_of_false nofun ?_
      rintro ⟨_, ⟨⟩, hfields, -⟩
      rw [Store.ofIndex_eq_ok_iff.mpr ⟨hfields, rfl⟩] at hindex
      cases hindex
    | ok s =>
      obtain ⟨hfields, rfl⟩ := Store.ofIndex_eq_ok_iff.mp hindex
      constructor
      · rintro ⟨⟩
        exact ⟨schema, rfl, hfields, rfl⟩
      · rintro ⟨_, ⟨⟩, -, rfl⟩
        rfl

/-- An index that a writer of its store leaves can be found again. -/
theorem Writer.isListed_of_steps {s : Store ρ} {g : IdGenerator σ} {w : Writer}
    (h : Steps s g s.newWriter w) : w.index.isListed = true := by
  refine forall_of_steps (p := fun w => w.index.isListed = true) (fun w w' hw hstep => ?_) rfl h
  cases hstep with
  | write _ => exact hw
  | delete id => rfl
  | commit => rfl
  | rollback => exact hw
  | merge =>
    show w.index.merged.isListed = true
    rw [Index.merged]
    split <;> exact hw
  | clear => rfl

/-! ### What a property accepts of a document -/

theorem Document.mem_of_first? {d : Document} {field : String} {p : Payload}
    (h : d.first? field = some p) : (field, p) ∈ d.values := by
  obtain ⟨e, he, rfl⟩ := Option.map_eq_some_iff.mp h
  have hname := List.find?_some (p := fun e : String × Payload => e.1 == field) he
  obtain rfl := beq_iff_eq.mp hname
  exact List.mem_of_find?_eq_some he

/-- Whether a property accepts what a document has for it, if there is anything. -/
def Property.AcceptsIn (P : Property ρ) (d : Document) : Prop :=
  ∀ p, d.first? P.binding.field = some p → P.type.Accepts p

/-- Whether all properties accept what a document has for them. -/
def RecordDescription.Accepts (R : RecordDescription ρ) (d : Document) : Prop :=
  ∀ P ∈ R.properties, P.AcceptsIn d

namespace Property

variable {P : Property ρ} {d : Document}

/-- What a property reads of a value of its store type. -/
theorem read?_of_type {p : Payload} (hfirst : d.first? P.binding.field = some p)
    (htype : p.type = P.type.kind.storeType) : P.read? d = P.ofPayload p := by
  rw [← P.binding_kind] at htype
  simp only [read?, hfirst, FieldKind.readStored?, if_pos htype]

/-- A property that is read accepts what there is. -/
theorem acceptsIn_of_read? {o : Option P.α} (h : P.read? d = .ok o) : P.AcceptsIn d := by
  intro p hfirst
  have htype : p.type = P.type.kind.storeType := by
    by_contra hne
    rw [← P.binding_kind] at hne
    simp only [read?, hfirst, FieldKind.readStored?, if_neg hne] at h
    cases h
  rw [read?_of_type hfirst htype, ofPayload] at h
  refine (P.type.isReading_ofPayload htype).exists_ok_iff.mp ?_
  cases hread : P.type.ofPayload p with
  | ok a => exact ⟨a, rfl⟩
  | error e =>
    rw [hread] at h
    cases h

variable (htype : ∀ p, d.first? P.binding.field = some p → p.type = P.type.kind.storeType)
include htype

/-- Of values of its store type a property can read those that it accepts. -/
theorem exists_read?_iff : (∃ o, P.read? d = .ok o) ↔ P.AcceptsIn d := by
  refine ⟨fun ⟨o, ho⟩ => acceptsIn_of_read? ho, fun haccepts => ?_⟩
  cases hfirst : d.first? P.binding.field with
  | none => exact ⟨none, by rw [read?, hfirst]⟩
  | some p =>
    obtain ⟨a, ha⟩ :=
      (P.type.isReading_ofPayload (htype p hfirst)).exists_ok_iff.mpr (haccepts p hfirst)
    exact ⟨some a, by rw [read?_of_type hfirst (htype p hfirst), ofPayload, ha]⟩

/-- What is reported of a value of its store type is a refusal. -/
theorem exists_refusal_of_read? {e : CodecError} (h : P.read? d = .error e) :
    ∃ p cause, d.first? P.binding.field = some p ∧ ¬ P.type.Accepts p ∧
      P.type.kind.IsRefusal p cause ∧ e = .inField P.binding.field cause := by
  cases hfirst : d.first? P.binding.field with
  | none =>
    rw [read?, hfirst] at h
    cases h
  | some p =>
    rw [read?_of_type hfirst (htype p hfirst), ofPayload] at h
    cases hread : P.type.ofPayload p with
    | ok a =>
      rw [hread] at h
      cases h
    | error cause =>
      rw [hread] at h
      cases h
      obtain ⟨hrefused, hcause⟩ :=
        (P.type.isReading_ofPayload (htype p hfirst)).of_error hread
      exact ⟨p, cause, rfl, hrefused, hcause, hcause.attribute _⟩

end Property

/-! ### Documents under another record type -/

/-- Whether the properties of a record type accept all that those of another one accept in the same
fields, and anything of their store types in other fields. -/
def RecordDescription.Widens {ρ' : Type} (B : RecordDescription ρ') (A : RecordDescription ρ) :
    Prop :=
  ∀ Q ∈ B.properties,
    (∃ P ∈ A.properties, P.binding.field = Q.binding.field ∧
      ∀ p, P.type.Accepts p → Q.type.Accepts p) ∨
    ∀ p, p.type = Q.type.kind.storeType → Q.type.Accepts p

/-- The values of an entry have the types of the fields of the index. -/
theorem Store.IsBuiltFor.type_of_isEntry {s : Store ρ} {R : RecordDescription ρ}
    (h : s.IsBuiltFor R) {entry : Entry} (hentry : s.IsEntry entry) {e : String × Payload}
    (he : e ∈ entry.document.values) {f : StoreField}
    (hf : (s.fields.find? fun g => g.name == e.1) = some f) : e.2.type = f.type := by
  obtain ⟨r, implicit, hadmits, hr⟩ := hentry
  obtain ⟨own, hown, hname, htype⟩ :=
    Schema.exists_field_of_toDocument hadmits (entry_eq_ok_iff.mp hr).1 he
  have hfind := find?_name_of_mem h.nodup hown
  rw [hname, ← h.fields_eq, hf, Option.some.injEq] at hfind
  rw [hfind, htype]

variable {σ' ρ' : Type}

/-- What a property of another record type meets in its field has its store type, if the fields of
that record type have been compared with those of the index. -/
theorem Property.type_of_first? {s : Store ρ} {R : RecordDescription ρ} (hs : s.IsBuiltFor R)
    {entry : Entry} (hentry : s.IsEntry entry) {schema : Schema ρ'} {Q : Property ρ'}
    (hQ : Q.column ∈ schema.columns)
    (hfields : ∀ wanted ∈ schema.storeFields, ∃ f,
      (s.fields.find? fun f => f.name == wanted.name) = some f ∧ f.type = wanted.type)
    {given : Document} (hgiven : given.values ⊆ entry.document.values) {p : Payload}
    (hfirst : given.first? Q.binding.field = some p) : p.type = Q.type.kind.storeType := by
  have hwanted : StoreField.raw Q.binding.field Q.binding.kind.storeType ∈ schema.storeFields :=
    List.mem_append_right _ (List.mem_flatMap.mpr
      ⟨Q.binding, List.mem_map_of_mem hQ, List.mem_cons_self ..⟩)
  obtain ⟨f, hf, hftype⟩ := hfields _ hwanted
  rw [hs.type_of_isEntry hentry (hgiven (Document.mem_of_first? hfirst)) hf, hftype, Q.binding_kind]
  rfl

namespace Session

/-- **Which documents of an index are records of the type it is opened for.** A document is one just
if each property accepts what there is in its field, however many values the document has lost.
Otherwise the refusal of the first property that does not is reported. So a document that could be
read before still can if the new type accepts what the old one did. -/
theorem decodes_of_start {s : Store ρ} {A : RecordDescription ρ} (hs : s.IsBuiltFor A)
    (g : IdGenerator σ) (ids : σ) (calls : List (Call ρ)) {B : RecordDescription ρ'}
    {mode : OpenMode} {c : StoreConfig} {g' : IdGenerator σ'} {ids' : σ'}
    {session : Session σ' ρ'}
    (hopen : start mode c B.recordType g' ids'
      (some (s.newWriter.runCalls s g ids calls).1.index) = .ok session)
    {d given : Document}
    (hd : d ∈ liveDocuments (s.newWriter.runCalls s g ids calls).1.index.slots)
    (hgiven : given.values ⊆ d.values) :
    let schema := session.store.schema
    ((∃ r, schema.ofDocument B.blank given = .ok r) ↔ B.Accepts given) ∧
    (∀ e, schema.ofDocument B.blank given = .error e →
      ∃ before Q after p cause, B.properties = before ++ Q :: after ∧
        (∀ P ∈ before, P.AcceptsIn given) ∧ given.first? Q.binding.field = some p ∧
        ¬ Q.type.Accepts p ∧ Q.type.kind.IsRefusal p cause ∧
        e = .inField Q.binding.field cause) ∧
    (B.Widens A → (∃ r, s.schema.ofDocument A.blank given = .ok r) →
      ∃ r, schema.ofDocument B.blank given = .ok r) := by
  intro schema
  have hsteps := s.newWriter.steps_runCalls s g ids calls
  obtain ⟨_, hbuild, hfields, rfl⟩ :=
    (start_eq_ok_iff (Writer.isListed_of_steps hsteps)).mp hopen
  rw [((Writer.IsOf.newWriter s).runCalls ids calls).fields_eq] at hfields
  obtain ⟨slot, hslot, rfl⟩ := exists_slot_of_mem_liveDocuments hd
  have hentry := (Writer.forall_isEntry_of_steps hsteps).committed slot hslot
  have htype : ∀ Q ∈ B.properties, ∀ p, given.first? Q.binding.field = some p →
      p.type = Q.type.kind.storeType := fun Q hQ p hfirst =>
    Property.type_of_first? hs hentry (RecordDescription.column_mem_of_build hbuild hQ) hfields
      hgiven hfirst
  have hiff : (∃ r, schema.ofDocument B.blank given = .ok r) ↔ B.Accepts given :=
    (RecordDescription.exists_ofDocument_iff hbuild).trans
      (forall₂_congr fun Q hQ => Property.exists_read?_iff (htype Q hQ))
  refine ⟨hiff, fun e he => ?_, fun hwidens hread => hiff.mpr fun Q hQ p hfirst => ?_⟩
  · obtain ⟨before, Q, after, hsplit, hbefore, hQ⟩ :=
      RecordDescription.exists_of_ofDocument_error hbuild he
    have hmem : Q ∈ B.properties := hsplit ▸ List.mem_append_right _ (List.mem_cons_self ..)
    obtain ⟨p, cause, hfirst, hrefused, hcause, rfl⟩ :=
      Property.exists_refusal_of_read? (htype Q hmem) hQ
    refine ⟨before, Q, after, p, cause, hsplit, fun P hP => ?_, hfirst, hrefused, hcause, rfl⟩
    obtain ⟨o, ho⟩ := hbefore P hP
    exact Property.acceptsIn_of_read? ho
  · rcases hwidens Q hQ with ⟨P, hP, hfield, haccepts⟩ | haccepts
    · obtain ⟨o, ho⟩ := (RecordDescription.exists_ofDocument_iff hs.build).mp hread P hP
      exact haccepts p (Property.acceptsIn_of_read? ho p (hfield ▸ hfirst))
    · exact haccepts p (htype Q hQ p hfirst)

/-! ### Venues -/

/-- A store of venues. -/
def venues : Store Venue :=
  ⟨Venue.schema, ⟨"", 15, .greek, 500, 20⟩, Venue.schema.storeFields⟩

theorem isMadeFor_venues : venues.IsMadeFor Venue.description :=
  ⟨⟨Venue.build_description, rfl, Venue.nodup_storeFields⟩, rfl⟩

/-- A venue of a rank. -/
def ranked (rank : Int32) : Venue :=
  { Venue.blank with code := ⟨"v1"⟩, rank }

/-- The index of a store in which one venue has been saved. -/
def rankedIndex (rank : Int32) : Index :=
  (venues.newWriter.runCalls venues (.numbered "v") 0 [.operation (.save (ranked rank))]).1.index

/-- Venues with nothing but their rank, as a number of some type. -/
def rankAs {α : Type} (t : PropertyType α) (blank : α) : RecordDescription (VenueView α) :=
  VenueView.description "rank" t blank

/-- What has been saved is a document that venues can read. -/
theorem exists_document_ranked (rank : Int32) :
    ∃ d, venues.schema.toDocument (ranked rank) none = .ok d ∧
      d ∈ liveDocuments (rankedIndex rank).slots ∧
      ∃ r, Venue.schema.ofDocument Venue.blank d = .ok r := by
  have hwrite := (rfl : (venues.writeRecord (.numbered "v") 0 (ranked rank)).result =
    .ok (⟨"v1"⟩, _))
  have hd := (rfl : venues.schema.toDocument (ranked rank) none = .ok _)
  have hlive := isMadeFor_venues.mem_liveDocuments_perform_save venues.newWriter_keeps hwrite hd
  refine ⟨_, hd, hlive, ?_⟩
  refine (RecordDescription.exists_ofDocument_toDocument_iff Venue.build_description
    Venue.nodup_storeFields (.inl rfl) hd).mpr ?_
  have htags : (PropertyType.structured (List String)).IsReadable (ranked rank).tags := by
    intro t ht
    have hwrite : JsonData.write? (ranked rank).tags.value = some "[]" := by
      show JsonData.write? ([] : List String) = some "[]"
      decide +kernel
    obtain rfl := Option.some.inj (hwrite.symm.trans ht)
    decide +kernel
  simp only [RecordDescription.properties, Venue.description, Member.property?,
    List.filterMap_cons, List.filterMap_nil, List.forall_mem_cons]
  exact ⟨trivial, trivial, trivial, trivial, trivial, trivial, PropertyType.isReadable_none _,
    PropertyType.isReadable_none _, trivial, htags, PropertyType.isReadable_none _,
    PropertyType.isReadable_none _, PropertyType.isReadable_none _, List.forall_mem_nil _⟩

/-- A long rank may be any rank of a venue. -/
theorem widens_rankAs_int64 : (rankAs .int64 0).Widens Venue.description := by
  have hcode (p : Payload) (h : p.type = .text) : PropertyType.recordId.Accepts p := h
  have hrank (p : Payload) (h : PropertyType.int32.Accepts p) : PropertyType.int64.Accepts p := by
    cases p with
    | signed n => exact ⟨n.le_toInt, Int.le_sub_one_of_lt n.toInt_lt⟩
    | _ => exact h
  refine List.forall_mem_cons.mpr ⟨.inr hcode, List.forall_mem_singleton.mpr (.inl ?_)⟩
  exact ⟨_, .tail _ (.tail _ (.head _)), rfl, hrank⟩

/-- Of two venues the one of a small rank is read where ranks are small, and the other one where
they are long. -/
theorem decodes_of_start_ranked :
    (∃ session d, start .existing venues.config (rankAs .uint8 0).recordType (.numbered "v") 0
        (some (rankedIndex 5)) = .ok session ∧
      d ∈ liveDocuments (rankedIndex 5).slots ∧
      ∃ r, session.store.schema.ofDocument (rankAs .uint8 0).blank d = .ok r) ∧
    ∃ session d, start .create venues.config (rankAs .int64 0).recordType (.numbered "v") 0
        (some (rankedIndex 300)) = .ok session ∧
      d ∈ liveDocuments (rankedIndex 300).slots ∧
      ∃ r, session.store.schema.ofDocument (rankAs .int64 0).blank d = .ok r := by
  constructor
  · have hopen := (rfl : start .existing venues.config (rankAs .uint8 0).recordType
      (.numbered "v") 0 (some (rankedIndex 5)) = .ok _)
    obtain ⟨d, hd, hlive, -⟩ := exists_document_ranked 5
    refine ⟨_, d, hopen, hlive, (decodes_of_start isMadeFor_venues.toIsBuiltFor _ _ _ hopen hlive
      (List.Subset.refl _)).1.mpr ?_⟩
    cases hd
    refine List.forall_mem_cons.mpr ⟨fun p hp => ?_, List.forall_mem_singleton.mpr fun p hp => ?_⟩
    · cases hp
      exact rfl
    · cases hp
      show (0 : Int) ≤ _ ∧ _
      decide
  · have hopen := (rfl : start .create venues.config (rankAs .int64 0).recordType
      (.numbered "v") 0 (some (rankedIndex 300)) = .ok _)
    obtain ⟨d, -, hlive, hread⟩ := exists_document_ranked 300
    exact ⟨_, d, hopen, hlive, (decodes_of_start isMadeFor_venues.toIsBuiltFor _ _ _ hopen hlive
      (List.Subset.refl _)).2.2 widens_rankAs_int64 hread⟩

/-- However the index of the other venue is opened where ranks are small, the venue is there, can be
read as what it was written as, and is refused. -/
theorem not_decodes_ranked :
    ∃ session d, (∀ mode, start mode venues.config (rankAs .uint8 0).recordType (.numbered "v") 0
        (some (rankedIndex 300)) = .ok session) ∧
      d ∈ liveDocuments (rankedIndex 300).slots ∧
      (∃ r, venues.schema.ofDocument Venue.blank d = .ok r) ∧
      session.store.schema.ofDocument (rankAs .uint8 0).blank d =
        .error (.inField "rank" (.outOfRange 300)) := by
  obtain ⟨d, hd, hlive, hread⟩ := exists_document_ranked 300
  refine ⟨_, d, fun mode => by cases mode <;> rfl, hlive, hread, ?_⟩
  cases hd
  rfl

end Session

end Catalog
