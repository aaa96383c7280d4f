import Catalog.Proofs.Record.Property
import Catalog.Proofs.Results
import Mathlib.Data.List.Nodup

/-!
# Documents of records

Each column writes under names of its own, so that its field has no other value in the document of
a record than the one that it wrote. What a property reads from a document is settled by that value
alone; a record is read by one property after the other, and none touches what another one wrote.

## Main definitions

* `Binding.fieldNames`: the names of the fields of a binding
* `Property.readStored?`, `Property.read?`: what a document has for a property

## Main results

* `filter_toDocument`: a field has the value of its column and no other
* `RecordDescription.exists_ofStored_iff`: a document is a record if every property can be read
* `RecordDescription.exists_of_ofStored_error`: what is reported if it is none
* `RecordDescription.get_ofStored`: what the properties of that record are
* `RecordDescription.ofStored_of_untouched`: what no property sets is as in the blank record
-/

namespace Catalog

/-- The names of the fields of a binding. -/
def Binding.fieldNames (b : Binding) : List String :=
  b.storeFields.map StoreField.name

theorem Binding.fieldNames_eq (b : Binding) :
    b.fieldNames = b.field :: (b.analysisField?.toList ++
      match b.spatial? with
      | some f => [f.point, f.x, f.y]
      | none => []) := by
  rw [fieldNames, storeFields, List.map_append, List.map_cons]
  cases b.analysisField? <;> cases b.spatial? <;> rfl

theorem Binding.field_mem_fieldNames (b : Binding) : b.field ∈ b.fieldNames :=
  List.mem_cons_self ..

theorem Binding.textField_mem_fieldNames (b : Binding) : b.textField ∈ b.fieldNames := by
  rw [fieldNames_eq, textField]
  cases b.analysisField? with
  | none => exact List.mem_cons_self ..
  | some n => exact List.mem_cons_of_mem _ (List.mem_cons_self ..)

theorem map_name_storeFieldsOf (bindings : List Binding) :
    (storeFieldsOf bindings).map StoreField.name =
      (if bindings.any Binding.isIdentity then [] else [implicitIdField]) ++
        bindings.flatMap Binding.fieldNames := by
  rw [storeFieldsOf, List.map_append, List.map_flatMap]
  split <;> rfl

variable {ρ : Type}

/-! ### What columns write -/

theorem Binding.name_mem_of_spatialValues {b : Binding} {v : FieldValue} {e : String × Payload}
    (he : e ∈ b.spatialValues v) : ∃ f, b.spatial? = some f ∧ e.1 ∈ [f.point, f.x, f.y] := by
  unfold Binding.spatialValues at he
  cases hf : b.spatial? with
  | none => simp [hf] at he
  | some f =>
    rw [hf] at he
    cases v with
    | geo p =>
      refine ⟨f, rfl, ?_⟩
      simp only [SpatialFields.values, List.mem_cons, List.not_mem_nil, or_false] at he
      rcases he with rfl | rfl | rfl <;> simp
    | _ => exact absurd he List.not_mem_nil

/-- A column that writes anything writes its payload first, and the rest under its other names. -/
theorem Column.values_eq {c : Column ρ} {r : ρ} {part : List (String × Payload)}
    (h : c.values r = .ok part) :
    (c.accessor.read r = .ok none ∧ part = []) ∨
      ∃ v p rest, c.accessor.read r = .ok (some v) ∧ c.binding.kind.encode v = .ok p ∧
        part = (c.binding.field, p) :: rest ∧ ∀ e ∈ rest, e.1 ∈ c.binding.fieldNames.tail := by
  unfold Column.values at h
  split at h
  · exact absurd h (by simp)
  · next hnone =>
    cases h
    exact .inl ⟨hnone, rfl⟩
  · next v hsome =>
    split at h
    · exact absurd h (by simp)
    · next p hp =>
      cases h
      refine .inr ⟨v, p, _, hsome, hp, rfl, fun e he => ?_⟩
      rw [Binding.fieldNames_eq, List.tail_cons, List.mem_append]
      rcases List.mem_append.mp he with he | he
      · left
        obtain ⟨n, hn, rfl⟩ := by simpa using he
        simpa using hn
      · right
        obtain ⟨f, hf, hmem⟩ := Binding.name_mem_of_spatialValues he
        rw [hf]
        exact hmem

/-- A column writes under the names of its own fields. -/
theorem Column.name_mem_of_values {c : Column ρ} {r : ρ} {part : List (String × Payload)}
    (h : c.values r = .ok part) {e : String × Payload} (he : e ∈ part) :
    e.1 ∈ c.binding.fieldNames := by
  rcases Column.values_eq h with ⟨-, rfl⟩ | ⟨v, p, rest, -, -, rfl, hrest⟩
  · exact absurd he List.not_mem_nil
  · rcases List.mem_cons.mp he with rfl | he
    · exact c.binding.field_mem_fieldNames
    · exact List.mem_of_mem_tail (hrest e he)

/-! ### The values of a field -/

theorem name_mem_of_mapM_values {columns : List (Column ρ)} {r : ρ}
    {parts : List (List (String × Payload))}
    (hparts : columns.mapM (fun c => c.values r) = .ok parts) {e : String × Payload}
    (he : e ∈ parts.flatten) : e.1 ∈ columns.flatMap fun c => c.binding.fieldNames := by
  induction columns generalizing parts with
  | nil =>
    cases hparts
    exact absurd he (by simp)
  | cons d columns ih =>
    obtain ⟨part, rest, hpart, hrest, rfl⟩ := mapM_cons_ok hparts
    rw [List.flatten_cons, List.mem_append] at he
    rw [List.flatMap_cons, List.mem_append]
    rcases he with he | he
    · exact .inl (Column.name_mem_of_values hpart he)
    · exact .inr (ih hrest he)

theorem filter_eq_nil_of_notMem {l : List (String × Payload)} {names : List String} {field : String}
    (hl : ∀ e ∈ l, e.1 ∈ names) (hfield : field ∉ names) :
    l.filter (fun e => e.1 == field) = [] := by
  rw [List.filter_eq_nil_iff]
  intro e he heq
  exact hfield (beq_iff_eq.mp heq ▸ hl e he)

/-- Of its own values a column writes only the first under its own field. -/
theorem Column.filter_values {c : Column ρ} (hnodup : c.binding.fieldNames.Nodup) {r : ρ}
    {part : List (String × Payload)} (h : c.values r = .ok part) :
    part.filter (fun e => e.1 == c.binding.field) = part.head?.toList := by
  rcases Column.values_eq h with ⟨-, rfl⟩ | ⟨v, p, rest, -, -, rfl, hrest⟩
  · rfl
  · rw [Binding.fieldNames_eq, List.tail_cons] at hrest
    rw [Binding.fieldNames_eq, List.nodup_cons] at hnodup
    rw [List.filter_cons, if_pos (beq_self_eq_true c.binding.field),
      filter_eq_nil_of_notMem hrest hnodup.1]
    rfl

/-- Where no name is taken twice, what there is under a name of a column was written by it. -/
theorem filter_flatten_values {columns : List (Column ρ)} {r : ρ}
    {parts : List (List (String × Payload))}
    (hnodup : (columns.flatMap fun c => c.binding.fieldNames).Nodup)
    (hparts : columns.mapM (fun c => c.values r) = .ok parts) {c : Column ρ} (hc : c ∈ columns)
    {name : String} (hname : name ∈ c.binding.fieldNames) :
    ∃ part, c.values r = .ok part ∧
      parts.flatten.filter (fun e => e.1 == name) = part.filter fun e => e.1 == name := by
  induction columns generalizing parts with
  | nil => exact absurd hc List.not_mem_nil
  | cons d columns ih =>
    rw [List.flatMap_cons, List.nodup_append] at hnodup
    obtain ⟨-, htail, hdisjoint⟩ := hnodup
    obtain ⟨part, rest, hpart, hrest, rfl⟩ := mapM_cons_ok hparts
    rw [List.flatten_cons, List.filter_append]
    rcases List.mem_cons.mp hc with rfl | hc
    · have hothers : rest.flatten.filter (fun e => e.1 == name) = [] :=
        filter_eq_nil_of_notMem (fun e he => name_mem_of_mapM_values hrest he) fun hmem =>
          hdisjoint _ hname _ hmem rfl
      exact ⟨part, hpart, by rw [hothers, List.append_nil]⟩
    · obtain ⟨own, hown, hfilter⟩ := ih htail hrest hc
      have hnone : part.filter (fun e => e.1 == name) = [] :=
        filter_eq_nil_of_notMem (fun e he => Column.name_mem_of_values hpart he) fun hmem =>
          hdisjoint _ hmem _ (List.mem_flatMap.mpr ⟨c, hc, hname⟩) rfl
      exact ⟨own, hown, by rw [hnone, List.nil_append, hfilter]⟩

/-- The implicit identity is written only where no property is the identity. -/
def Schema.Admits (s : Schema ρ) (implicit : Option RecordId) : Prop :=
  implicit = none ∨ s.bindings.any Binding.isIdentity = false

theorem Schema.toDocument_eq_ok {s : Schema ρ} {r : ρ} {implicit : Option RecordId} {d : Document}
    (h : s.toDocument r implicit = .ok d) :
    ∃ parts, s.columns.mapM (fun c => c.values r) = .ok parts ∧
      d.values = (implicit.map fun i => (implicitIdField, Payload.text i.text)).toList ++
        parts.flatten := by
  unfold Schema.toDocument at h
  cases hparts : s.columns.mapM fun c => c.values r with
  | error e => rw [hparts] at h; exact absurd h (by simp [Except.map])
  | ok parts =>
    rw [hparts] at h
    cases h
    exact ⟨parts, rfl, rfl⟩

theorem Schema.nodup_fieldNames {s : Schema ρ}
    (hnodup : (s.storeFields.map StoreField.name).Nodup) :
    (s.columns.flatMap fun c => c.binding.fieldNames).Nodup := by
  rw [storeFields, map_name_storeFieldsOf, List.nodup_append, bindings, List.flatMap_map] at hnodup
  exact hnodup.2.1

/-- **A document has under a name of a column what the column wrote**, and nothing else. The fields
of the index of the record type have to be different ones. -/
theorem filter_toDocument_of_mem {s : Schema ρ}
    (hnodup : (s.storeFields.map StoreField.name).Nodup) {r : ρ} {implicit : Option RecordId}
    (himplicit : s.Admits implicit) {d : Document} (h : s.toDocument r implicit = .ok d)
    {c : Column ρ} (hc : c ∈ s.columns) {name : String} (hname : name ∈ c.binding.fieldNames) :
    ∃ part, c.values r = .ok part ∧
      d.values.filter (fun e => e.1 == name) = part.filter fun e => e.1 == name := by
  obtain ⟨parts, hparts, hvalues⟩ := Schema.toDocument_eq_ok h
  obtain ⟨part, hpart, hfilter⟩ :=
    filter_flatten_values (Schema.nodup_fieldNames hnodup) hparts hc hname
  refine ⟨part, hpart, ?_⟩
  have hfront : (implicit.map fun i => (implicitIdField, Payload.text i.text)).toList.filter
      (fun e => e.1 == name) = [] := by
    cases implicit with
    | none => rfl
    | some i =>
      have hnone := himplicit.resolve_left (by simp)
      rw [Schema.storeFields, map_name_storeFieldsOf, hnone, List.nodup_append] at hnodup
      have hne : implicitIdField ≠ name := hnodup.2.2 _ (List.mem_singleton_self _) _
        (List.mem_flatMap.mpr ⟨c.binding, List.mem_map_of_mem hc, hname⟩)
      simpa using hne
  rw [hvalues, List.filter_append, hfront, List.nil_append, hfilter]

/-- **A field has the value of its column and no other.** -/
theorem filter_toDocument {s : Schema ρ} (hnodup : (s.storeFields.map StoreField.name).Nodup)
    {r : ρ} {implicit : Option RecordId} (himplicit : s.Admits implicit) {d : Document}
    (h : s.toDocument r implicit = .ok d) {c : Column ρ} (hc : c ∈ s.columns) :
    ∃ part, c.values r = .ok part ∧
      d.values.filter (fun e => e.1 == c.binding.field) = part.head?.toList := by
  obtain ⟨part, hpart, hfilter⟩ :=
    filter_toDocument_of_mem hnodup himplicit h hc c.binding.field_mem_fieldNames
  have hcolumn : c.binding.fieldNames.Nodup :=
    (List.nodup_flatMap.mp (Schema.nodup_fieldNames hnodup)).1 c hc
  exact ⟨part, hpart, hfilter.trans (Column.filter_values hcolumn hpart)⟩

theorem first?_toDocument {s : Schema ρ} (hnodup : (s.storeFields.map StoreField.name).Nodup)
    {r : ρ} {implicit : Option RecordId} (himplicit : s.Admits implicit) {d : Document}
    (h : s.toDocument r implicit = .ok d) {c : Column ρ} (hc : c ∈ s.columns) :
    ∃ part, c.values r = .ok part ∧ d.first? c.binding.field = part.head?.map Prod.snd := by
  obtain ⟨part, hpart, hfilter⟩ := filter_toDocument hnodup himplicit h hc
  refine ⟨part, hpart, ?_⟩
  rw [Document.first?, ← List.head?_filter, hfilter]
  cases part <;> rfl

/-! ### Reading a property -/

theorem Document.first?_stored (d : Document) (field : String) :
    d.stored.first? field = (d.first? field).map .payload := by
  rw [Document.stored, StoredDocument.first?, Document.first?, List.find?_map, Option.map_map,
    Option.map_map]
  rfl

namespace Property

variable (P : Property ρ)

/-- What a property reads from a payload of its type. -/
def ofPayload (p : Payload) : Except CodecError (Option P.α) :=
  match P.type.ofPayload p with
  | .ok a => .ok (some a)
  | .error e => .error (e.attribute P.binding.field)

/-- What a document of an index has for a property. -/
def readStored? (d : StoredDocument) : Except CodecError (Option P.α) :=
  match d.first? P.binding.field with
  | none => .ok none
  | some v =>
    match P.binding.kind.readValue? v with
    | none => .error (.inField P.binding.field (.kindMismatch P.binding.kind .stored))
    | some p => P.ofPayload p

/-- What a document has for a property. -/
def read? (d : Document) : Except CodecError (Option P.α) :=
  match d.first? P.binding.field with
  | none => .ok none
  | some p =>
    match P.binding.kind.readStored? p with
    | none => .error (.inField P.binding.field (.kindMismatch P.binding.kind .stored))
    | some p => P.ofPayload p

theorem readStored?_stored (d : Document) : P.readStored? d.stored = P.read? d := by
  rw [readStored?, read?, d.first?_stored]
  cases d.first? P.binding.field <;> rfl

theorem write_bind_decode (p : Payload) (r : ρ) :
    (P.binding.kind.decode p).bind (P.accessor.write r) = (P.type.ofPayload p).map (P.set r) := by
  rw [P.binding_kind, PropertyType.ofPayload]
  cases P.type.kind.decode p <;> rfl

/-- A column writes into a record what the document has for its property, and nothing else. -/
theorem restore_column (d : StoredDocument) (r : ρ) :
    Column.restore d r P.column = (P.readStored? d).map fun o => o.elim r (P.set r) := by
  simp only [Column.restore, readStored?, ofPayload, column, write_bind_decode]
  cases d.first? P.binding.field with
  | none => rfl
  | some v =>
    cases hvalue : P.binding.kind.readValue? v with
    | none => simp only [hvalue]; rfl
    | some p =>
      simp only [hvalue]
      cases P.type.ofPayload p <;> rfl

end Property

/-! ### Reading a record -/

/-- Properties are read one by one; the record fails exactly if one of them does. -/
theorem exists_foldlM_restore_iff {properties : List (Property ρ)} {d : StoredDocument} {r : ρ} :
    (∃ r', (properties.map Property.column).foldlM (Column.restore d) r = .ok r') ↔
      ∀ P ∈ properties, ∃ o, P.readStored? d = .ok o := by
  induction properties generalizing r with
  | nil => exact ⟨fun _ P hP => absurd hP List.not_mem_nil, fun _ => ⟨r, rfl⟩⟩
  | cons P properties ih =>
    rw [List.map_cons, List.foldlM_cons, P.restore_column, List.forall_mem_cons]
    cases P.readStored? d with
    | error e => simp [bind, Except.bind, Except.map]
    | ok o =>
      show (∃ r', (properties.map Property.column).foldlM (Column.restore d) _ = .ok r') ↔ _
      rw [ih]
      simp

/-- What is reported is reported of the first property that cannot be read. -/
theorem exists_of_foldlM_restore_error {properties : List (Property ρ)} {d : StoredDocument} {r : ρ}
    {e : CodecError} (h : (properties.map Property.column).foldlM (Column.restore d) r = .error e) :
    ∃ before P after, properties = before ++ P :: after ∧
      (∀ Q ∈ before, ∃ o, Q.readStored? d = .ok o) ∧ P.readStored? d = .error e := by
  induction properties generalizing r with
  | nil => cases h
  | cons P properties ih =>
    rw [List.map_cons, List.foldlM_cons, P.restore_column] at h
    cases hread : P.readStored? d with
    | error e' =>
      rw [hread] at h
      cases h
      exact ⟨[], P, properties, rfl, nofun, hread⟩
    | ok o =>
      rw [hread] at h
      obtain ⟨before, Q, after, rfl, hbefore, hQ⟩ := ih h
      exact ⟨P :: before, Q, after, rfl, List.forall_mem_cons.mpr ⟨⟨o, hread⟩, hbefore⟩, hQ⟩

/-- What no property sets is as it was. -/
theorem untouched_foldlM_restore {properties : List (Property ρ)} {d : StoredDocument} {r r' : ρ}
    (h : (properties.map Property.column).foldlM (Column.restore d) r = .ok r') {β : Type}
    {observe : ρ → β} (hobserve : ∀ P ∈ properties, ∀ r a, observe (P.set r a) = observe r) :
    observe r' = observe r := by
  induction properties generalizing r with
  | nil =>
    cases h
    rfl
  | cons P properties ih =>
    rw [List.map_cons, List.foldlM_cons, P.restore_column] at h
    cases ho : P.readStored? d with
    | error e => rw [ho] at h; exact absurd h (by simp [bind, Except.bind, Except.map])
    | ok o =>
      rw [ho] at h
      rw [ih h fun Q hQ => hobserve Q (List.mem_cons_of_mem _ hQ)]
      cases o with
      | none => rfl
      | some a => exact hobserve P (List.mem_cons_self ..) r a

/-- A property of the record that was read is what the document has for it, or as it was. -/
theorem get_foldlM_restore {properties : List (Property ρ)}
    (hindependent : properties.Pairwise Property.Independent) {d : StoredDocument} {r r' : ρ}
    (h : (properties.map Property.column).foldlM (Column.restore d) r = .ok r')
    {P : Property ρ} (hP : P ∈ properties) {o : Option P.α} (ho : P.readStored? d = .ok o) :
    P.get r' = o.getD (P.get r) := by
  induction properties generalizing r with
  | nil => exact absurd hP List.not_mem_nil
  | cons Q properties ih =>
    rw [List.pairwise_cons] at hindependent
    obtain ⟨hQ, hrest⟩ := hindependent
    rw [List.map_cons, List.foldlM_cons, Q.restore_column] at h
    cases hq : Q.readStored? d with
    | error e => rw [hq] at h; exact absurd h (by simp [bind, Except.bind, Except.map])
    | ok q =>
      rw [hq] at h
      rcases List.mem_cons.mp hP with rfl | hP
      · -- The properties behind it do not touch it.
        rw [ho] at hq
        cases hq
        rw [untouched_foldlM_restore h fun Q' hQ' => (hQ Q' hQ').2]
        cases o with
        | none => rfl
        | some a => exact P.get_set r a
      · rw [ih hrest h hP]
        cases q with
        | none => rfl
        | some b => exact congrArg o.getD ((hQ P hP).1 r b)

namespace RecordDescription

variable {R : RecordDescription ρ} {s : Schema ρ}

theorem ofStored_eq (h : Schema.build R.recordType = .ok s) (blank : ρ) (d : StoredDocument) :
    s.ofStored blank d = (R.properties.map Property.column).foldlM (Column.restore d) blank := by
  rw [Schema.ofStored, columns_of_build h]

/-- **A document is a record exactly if every property can be read.** -/
theorem exists_ofStored_iff (h : Schema.build R.recordType = .ok s) {d : StoredDocument} :
    (∃ r, s.ofStored R.blank d = .ok r) ↔ ∀ P ∈ R.properties, ∃ o, P.readStored? d = .ok o := by
  rw [ofStored_eq h]
  exact exists_foldlM_restore_iff

/-- What is reported of a document is reported of the first property that cannot be read. -/
theorem exists_of_ofStored_error (h : Schema.build R.recordType = .ok s) {blank : ρ}
    {d : StoredDocument} {e : CodecError} (he : s.ofStored blank d = .error e) :
    ∃ before P after, R.properties = before ++ P :: after ∧
      (∀ Q ∈ before, ∃ o, Q.readStored? d = .ok o) ∧ P.readStored? d = .error e := by
  rw [ofStored_eq h] at he
  exact exists_of_foldlM_restore_error he

/-- The properties of a record that was read are what the document has for them; others are as in
the blank record. -/
theorem get_ofStored (h : Schema.build R.recordType = .ok s) {d : StoredDocument} {r : ρ}
    (hr : s.ofStored R.blank d = .ok r) {P : Property ρ} (hP : P ∈ R.properties)
    {o : Option P.α} (ho : P.readStored? d = .ok o) : P.get r = o.getD (P.get R.blank) := by
  rw [ofStored_eq h] at hr
  exact get_foldlM_restore R.independent hr hP ho

/-- What no property sets is as in the blank record. -/
theorem ofStored_of_untouched (h : Schema.build R.recordType = .ok s) {d : StoredDocument} {r : ρ}
    (hr : s.ofStored R.blank d = .ok r) {β : Type} {observe : ρ → β}
    (hobserve : ∀ P ∈ R.properties, ∀ r a, observe (P.set r a) = observe r) :
    observe r = observe R.blank := by
  rw [ofStored_eq h] at hr
  exact untouched_foldlM_restore hr hobserve

/-! ### Documents with nothing but payloads -/

theorem exists_ofDocument_iff (h : Schema.build R.recordType = .ok s) {d : Document} :
    (∃ r, s.ofDocument R.blank d = .ok r) ↔ ∀ P ∈ R.properties, ∃ o, P.read? d = .ok o := by
  simp only [← Property.readStored?_stored]
  exact exists_ofStored_iff h

theorem exists_of_ofDocument_error (h : Schema.build R.recordType = .ok s) {blank : ρ}
    {d : Document} {e : CodecError} (he : s.ofDocument blank d = .error e) :
    ∃ before P after, R.properties = before ++ P :: after ∧
      (∀ Q ∈ before, ∃ o, Q.read? d = .ok o) ∧ P.read? d = .error e := by
  simp only [← Property.readStored?_stored]
  exact exists_of_ofStored_error h he

theorem get_ofDocument (h : Schema.build R.recordType = .ok s) {d : Document} {r : ρ}
    (hr : s.ofDocument R.blank d = .ok r) {P : Property ρ} (hP : P ∈ R.properties)
    {o : Option P.α} (ho : P.read? d = .ok o) : P.get r = o.getD (P.get R.blank) :=
  get_ofStored h hr hP ((P.readStored?_stored d).trans ho)

theorem ofDocument_of_untouched (h : Schema.build R.recordType = .ok s) {d : Document} {r : ρ}
    (hr : s.ofDocument R.blank d = .ok r) {β : Type} {observe : ρ → β}
    (hobserve : ∀ P ∈ R.properties, ∀ r a, observe (P.set r a) = observe r) :
    observe r = observe R.blank :=
  ofStored_of_untouched h hr hobserve

end RecordDescription

end Catalog
