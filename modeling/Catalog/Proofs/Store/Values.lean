import Catalog.Proofs.Store.Entries

/-!
# What an index has of a property

The entry of a record has in the field of a property what was written of the property, and nothing
else: one value if the property is present, and the term of that value.

## Main definitions

* `PropertyType.moment?`, `Property.moment?`: the date that a property has

## Main results

* `Store.IsBuiltFor.exists_written`: what the document of a record has for a property
* `Store.IsBuiltFor.stored?_date`: what there is to sort by a date
* `Store.IsBuiltFor.terms_field`: the terms of the field of a property
-/

namespace Catalog

variable {ρ : Type}

/-! ### The value of a property -/

/-- Whether a value is short enough to be a term, which only texts may fail to be. -/
def Payload.FitsTerm (p : Payload) : Prop :=
  ∀ t, p = .text t → t.utf8ByteSize ≤ longestTermBytes

theorem StoreField.postings_raw (name : String) (type : StoreType) (analyzer : Analyzer)
    {p : Payload} (hp : p.FitsTerm) :
    (StoreField.raw name type).postings analyzer p = [⟨name, 0, p⟩] := by
  cases p with
  | text t => exact if_pos (hp t rfl)
  | _ => rfl

namespace Store.IsBuiltFor

variable {s : Store ρ} {R : RecordDescription ρ} (h : s.IsBuiltFor R) {P : Property ρ}
  (hP : P ∈ R.properties) {r : ρ} {e : Entry} (he : s.IsEntryOf r e)

include h hP he

/-- **The document of a record has one value for a property** that is present, and else none. -/
theorem exists_written : ∃ v?, P.type.toField (P.get r) = .ok v? ∧
    e.document.values.filter (fun v => v.1 == P.binding.field) =
      (v?.map fun v => (P.binding.field, v.payload)).toList := by
  obtain ⟨implicit, himplicit, he⟩ := he
  obtain ⟨part, hpart, hfilter⟩ := filter_toDocument h.nodup himplicit
    (Store.entry_eq_ok_iff.mp he).1 (RecordDescription.column_mem_of_build h.build hP)
  rcases Column.values_eq hpart with ⟨hread, rfl⟩ | ⟨v, p, rest, hread, hp, rfl, -⟩
  · exact ⟨none, hread, hfilter⟩
  · refine ⟨some v, hread, hfilter.trans ?_⟩
    have hkind : P.column.binding.kind = v.kind :=
      P.binding_kind.trans (P.type.kind_of_toField hread).symm
    rw [hkind, v.encode_kind, Except.ok.injEq] at hp
    rw [← hp]
    rfl

/-- What there is to sort by. -/
theorem stored?_field {v? : Option FieldValue} (hv : P.type.toField (P.get r) = .ok v?) :
    e.document.stored? P.binding.field P.binding.kind = v?.map FieldValue.payload := by
  obtain ⟨v?', hv', hfilter⟩ := h.exists_written hP he
  obtain rfl := Except.ok.inj (hv.symm.trans hv')
  rw [Document.stored?, Document.first?, ← List.head?_filter, hfilter]
  cases v? with
  | none => rfl
  | some v =>
    have htype : v.payload.type = P.binding.kind.storeType := by
      rw [P.binding_kind, ← P.type.kind_of_toField hv]
      exact FieldKind.type_of_encode v.encode_kind
    exact if_pos htype

/-- The term of the field of a property, unless it is a text that is too long. -/
theorem terms_field {v? : Option FieldValue} (hv : P.type.toField (P.get r) = .ok v?)
    (hfits : ∀ v ∈ v?, v.payload.FitsTerm) :
    e.terms P.binding.field = (v?.map FieldValue.payload).toList := by
  obtain ⟨v?', hv', hfilter⟩ := h.exists_written hP he
  obtain rfl := Except.ok.inj (hv.symm.trans hv')
  rw [Store.IsEntry.eq_ofDocument ⟨r, he⟩, Entry.terms_ofDocument, hfilter]
  cases v? with
  | none => rfl
  | some v =>
    have hfield : (s.fields.find? fun f => f.name == P.binding.field) =
        some (.raw P.binding.field P.binding.kind.storeType) :=
      h.find?_field hP (List.mem_cons_self ..)
    rw [Option.map_some, Option.toList_some, List.flatMap_singleton, namedPostings]
    simp only [hfield, StoreField.postings_raw _ _ _ (hfits v rfl)]
    rfl

end Store.IsBuiltFor

/-! ### Dates -/

/-- The date that a value of the type has. -/
def PropertyType.moment? : {α : Type} → PropertyType α → α → Option Moment
  | _, moment => some
  | _, option t => fun a => a.bind t.moment?
  | _, int8 | _, int16 | _, int32 | _, int64 | _, uint8 | _, uint16 | _, uint32 | _, uint64
  | _, double | _, single | _, string | _, recordId | _, geoPoint
  | _, structured _ => fun _ => none

/-- What is written of a date has lost its nanoseconds. -/
theorem PropertyType.toField_of_date {α : Type} {t : PropertyType α} (ht : t.kind = .date) (a : α) :
    t.toField a = .ok ((t.moment? a).map fun m => .date m.truncate) := by
  induction t with
  | moment => rfl
  | option t ih =>
    cases a with
    | none => rfl
    | some a => exact ih ht a
  | _ => cases ht

namespace Property

/-- The date that a record has for a property. -/
def moment? (P : Property ρ) (r : ρ) : Option Moment :=
  P.type.moment? (P.get r)

end Property

/-- What there is to sort by a date. -/
theorem Store.IsBuiltFor.stored?_date {s : Store ρ} {R : RecordDescription ρ} (h : s.IsBuiltFor R)
    {P : Property ρ} (hP : P ∈ R.properties) (hdate : P.type.kind = .date) {r : ρ} {e : Entry}
    (he : s.IsEntryOf r e) : e.document.stored? P.binding.field P.binding.kind =
      (P.moment? r).map fun m => .text m.truncate.stamp := by
  rw [h.stored?_field hP he (PropertyType.toField_of_date hdate (P.get r)), Option.map_map]
  rfl

end Catalog
