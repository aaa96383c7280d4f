import Catalog.Field.Type
import Catalog.Proofs.Decimal.Widening
import Catalog.Proofs.Field.Codec

/-!
# The types of properties and what is kept of their values

The types that properties may have are closed: twelve types of values, options of them, and
structured values of any type that is written as JSON. What a document keeps of a value, and when it
is found again there, is said for all of them by recursion on the type.

## Main definitions

* `PropertyType`: the types that properties may have
* `PropertyType.IsPresent`: whether a value is written at all
* `PropertyType.IsReadable`: whether what is written of a value is read
* `PropertyType.IsFaithful`: whether the texts of a value are read as that value
* `PropertyType.Agrees`: how the value that is read is related to the one that was written
* `PropertyType.ofPayload`: what is read of a payload

## Main results

* `PropertyType.exists_ofPayload_iff`: exactly readable values are read
* `PropertyType.ofPayload_of_isFaithful`: a faithful value is read as one that agrees with it
-/

namespace Catalog

/-- A type that a property may have. Dates and times in UTC have no member of their own: they are
written and read as `moment`, with the zone left out and put back. -/
inductive PropertyType : Type → Type 1
  | int8 : PropertyType Int8
  | int16 : PropertyType Int16
  | int32 : PropertyType Int32
  | int64 : PropertyType Int64
  | uint8 : PropertyType UInt8
  | uint16 : PropertyType UInt16
  | uint32 : PropertyType UInt32
  | uint64 : PropertyType UInt64
  | double : PropertyType Double
  | single : PropertyType Single
  | string : PropertyType String
  | recordId : PropertyType RecordId
  | moment : PropertyType Moment
  | geoPoint : PropertyType GeoPoint
  | structured (α : Type) [JsonData α] : PropertyType (Structured α)
  | option {α : Type} (t : PropertyType α) : PropertyType (Option α)

namespace PropertyType

/-- How values of the type are written and read. -/
@[reducible]
def fieldType : {α : Type} → PropertyType α → FieldType α
  | _, int8 | _, int16 | _, int32 | _, int64 | _, uint8 | _, uint16 | _, uint32 | _, uint64
  | _, double | _, single | _, string | _, recordId | _, moment | _, geoPoint
  | _, structured _ => inferInstance
  | _, option t => @instFieldTypeOption _ t.fieldType

/-- Whether a value is written: an option that is absent is not. -/
def IsPresent : {α : Type} → PropertyType α → α → Prop
  | _, option t => fun a => ∃ b ∈ a, t.IsPresent b
  | _, int8 | _, int16 | _, int32 | _, int64 | _, uint8 | _, uint16 | _, uint32 | _, uint64
  | _, double | _, single | _, string | _, recordId | _, moment | _, geoPoint
  | _, structured _ => fun _ => True

/-- Whether what is written of a value is read: a date has a year of four digits, and the text of a
structured value, if it has one, is a value of its type and no JSON that a reader refuses. -/
def IsReadable : {α : Type} → PropertyType α → α → Prop
  | _, moment => Moment.HasPlainYear
  | _, structured α => fun s => ∀ t, JsonData.write? s.value = some t →
      (Json.read? t).isSome ∧ (JsonData.read? t : Option α).isSome
  | _, option t => fun a => ∀ b ∈ a, t.IsReadable b
  | _, int8 | _, int16 | _, int32 | _, int64 | _, uint8 | _, uint16 | _, uint32 | _, uint64
  | _, double | _, single | _, string | _, recordId | _, geoPoint => fun _ => True

/-- Whether the texts that are written of a value are read as that value: a date has a year of four
digits, and the texts of coordinates and of structured values are inverted by their readers. -/
def IsFaithful : {α : Type} → PropertyType α → α → Prop
  | _, moment => Moment.HasPlainYear
  | _, geoPoint => GeoPoint.IsReadable
  | _, structured α => fun s => ∀ t, JsonData.write? s.value = some t →
      (Json.read? t).isSome ∧ (JsonData.read? t : Option α) = some s.value
  | _, option t => fun a => ∀ b ∈ a, t.IsFaithful b
  | _, int8 | _, int16 | _, int32 | _, int64 | _, uint8 | _, uint16 | _, uint32 | _, uint64
  | _, double | _, single | _, string | _, recordId => fun _ => True

/-- How a value that is read is related to the one that was written: it is the same value, except
that a date has lost its nanoseconds and what is not a number is some value that is not. -/
def Agrees : {α : Type} → PropertyType α → α → α → Prop
  | _, moment => fun m m' => m' = m.truncate
  | _, single => fun x y => y = x ∨ (x.IsNan ∧ y.IsNan)
  | _, option t => Option.Rel t.Agrees
  | _, int8 | _, int16 | _, int32 | _, int64 | _, uint8 | _, uint16 | _, uint32 | _, uint64
  | _, double | _, string | _, recordId | _, geoPoint | _, structured _ => fun a b => b = a

variable {α : Type} (t : PropertyType α)

/-- The kind of properties of the type. -/
def kind : FieldKind :=
  t.fieldType.kind

/-- The value of a property. -/
def toField (a : α) : Except CodecError (Option FieldValue) :=
  t.fieldType.toField a

/-- The property of a payload. -/
def ofPayload (p : Payload) : Except CodecError α :=
  (t.kind.decode p).bind t.fieldType.ofField

/-! ### Writing -/

theorem toField_of_not_isPresent {a : α} (h : ¬ t.IsPresent a) : t.toField a = .ok none := by
  induction t with
  | option t ih =>
    cases a with
    | none => rfl
    | some a => exact ih fun ha => h ⟨a, rfl, ha⟩
  | _ => exact absurd trivial h

theorem isPresent_of_toField {a : α} {v : FieldValue} (h : t.toField a = .ok (some v)) :
    t.IsPresent a := by
  by_contra hp
  rw [toField_of_not_isPresent t hp] at h
  exact absurd h (by simp)

theorem not_isPresent_of_toField {a : α} (h : t.toField a = .ok none) : ¬ t.IsPresent a := by
  induction t with
  | option t ih =>
    rintro ⟨b, rfl, hb⟩
    exact ih h hb
  | structured α =>
    simp only [toField, FieldType.toField] at h
    split at h <;> exact absurd h (by simp)
  | _ => exact absurd h (by simp [toField, FieldType.toField])

/-- Nothing is asked of a value that is not written. -/
theorem isReadable_of_not_isPresent {a : α} (h : ¬ t.IsPresent a) : t.IsReadable a := by
  induction t with
  | option t ih =>
    rintro b rfl
    exact ih fun hb => h ⟨b, rfl, hb⟩
  | _ => exact absurd trivial h

theorem isReadable_none : t.option.IsReadable none := by
  intro b hb
  cases hb

/-- A value is written as one of the kind of its type. -/
theorem kind_of_toField {a : α} {v : FieldValue} (h : t.toField a = .ok (some v)) :
    v.kind = t.kind := by
  induction t with
  | option t ih =>
    cases a with
    | none => exact absurd h (by simp [toField, FieldType.toField])
    | some a => exact ih h
  | structured α =>
    simp only [toField, FieldType.toField] at h
    split at h
    · cases h
      rfl
    · exact absurd h (by simp)
  | _ =>
    cases h
    rfl

/-! ### Reading -/

theorem ofPayload_option (p : Payload) : t.option.ofPayload p = (t.ofPayload p).map some := by
  show (t.kind.decode p).bind (fun v => (t.fieldType.ofField v).map some) = _
  rw [ofPayload]
  cases t.kind.decode p <;> rfl

theorem ofPayload_moment (s : String) : moment.ofPayload (.text s) =
    match Moment.ofStamp? s with
    | some m => .ok m
    | none => .error (.invalidDate s) := by
  show Except.bind (FieldKind.date.decode (.text s)) _ = _
  rw [FieldKind.decode]
  cases Moment.ofStamp? s <;> rfl

theorem ofPayload_geoPoint (s : String) :
    geoPoint.ofPayload (.text s) = GeoPoint.ofText s := by
  show Except.bind (Except.map FieldValue.geo (GeoPoint.ofText s)) _ = _
  cases GeoPoint.ofText s <;> rfl

theorem ofPayload_structured {β : Type} [JsonData β] (s : String) :
    (structured β).ofPayload (.text s) =
      if (Json.read? s).isSome then
        match (JsonData.read? s : Option β) with
        | some b => .ok ⟨b⟩
        | none => .error .structured
      else .error .structured := by
  show Except.bind (if (Json.read? s).isSome then _ else _) _ = _
  split <;> rfl

theorem toField_structured {β : Type} [JsonData β] {s : Structured β} {v : FieldValue}
    (h : (structured β).toField s = .ok (some v)) :
    ∃ t, JsonData.write? s.value = some t ∧ v = .structured t := by
  simp only [toField, FieldType.toField] at h
  split at h
  · next t ht =>
    cases h
    exact ⟨t, ht, rfl⟩
  · exact absurd h (by simp)

/-- An integer that is kept in 64 bits is read at its own width. -/
theorem ofPayload_ofIntegers {least greatest : Int} (toInt : α → Int) (ofInt : Int → α)
    (ht : t.fieldType = .ofIntegers least greatest toInt ofInt) (a : α)
    (h : least ≤ toInt a ∧ toInt a ≤ greatest) (hl : -2 ^ 63 ≤ least) (hg : greatest < 2 ^ 63)
    (hinv : ofInt (toInt a) = a) : t.ofPayload (.signed (Int64.ofInt (toInt a))) = .ok a := by
  have hkept : (Int64.ofInt (toInt a)).toInt = toInt a :=
    Int64.toInt_ofInt_of_le (by omega) (by omega)
  rw [ofPayload, kind, ht]
  show (if least ≤ (Int64.ofInt (toInt a)).toInt ∧ (Int64.ofInt (toInt a)).toInt ≤ greatest then
    Except.ok (ofInt (Int64.ofInt (toInt a)).toInt) else _) = _
  rw [hkept, if_pos h, hinv]

theorem ofPayload_ofNaturals {greatest : Int} (toNat : α → Nat) (ofNat : Nat → α)
    (ht : t.fieldType = .ofIntegers 0 greatest (fun n => (toNat n : Int)) fun n => ofNat n.toNat)
    (a : α) (h : toNat a ≤ greatest) (hg : greatest < 2 ^ 63) (hinv : ofNat (toNat a) = a) :
    t.ofPayload (.signed (Int64.ofInt (toNat a))) = .ok a :=
  t.ofPayload_ofIntegers _ _ ht a ⟨by omega, h⟩ (by omega) hg hinv

/-- **A faithful value is read as one that agrees with it.** -/
theorem ofPayload_of_isFaithful {a : α} {v : FieldValue} (h : t.toField a = .ok (some v))
    (hf : t.IsFaithful a) : ∃ b, t.ofPayload v.payload = .ok b ∧ t.Agrees a b := by
  induction t generalizing v with
  | int8 | int16 | int32 | int64 =>
    cases h
    have hl := a.le_toInt
    have hg := a.toInt_lt
    exact ⟨a, ofPayload_ofIntegers _ _ _ rfl a (by omega) (by omega) (by omega) a.ofInt_toInt, rfl⟩
  | uint8 =>
    cases h
    have hg := a.toNat_lt
    exact ⟨a, ofPayload_ofNaturals _ UInt8.toNat Nat.toUInt8 rfl a (by omega) (by omega)
      (by simp), rfl⟩
  | uint16 =>
    cases h
    have hg := a.toNat_lt
    exact ⟨a, ofPayload_ofNaturals _ UInt16.toNat Nat.toUInt16 rfl a (by omega) (by omega)
      (by simp), rfl⟩
  | uint32 =>
    cases h
    have hg := a.toNat_lt
    exact ⟨a, ofPayload_ofNaturals _ UInt32.toNat Nat.toUInt32 rfl a (by omega) (by omega)
      (by simp), rfl⟩
  | uint64 | double | string | recordId =>
    cases h
    exact ⟨a, rfl, rfl⟩
  | single =>
    cases h
    refine ⟨a.widen.narrow, rfl, ?_⟩
    by_cases hnan : a.IsNan
    · exact .inr ⟨hnan, Single.isNan_narrow_widen hnan⟩
    · exact .inl (Single.narrow_widen hnan)
  | moment =>
    cases h
    refine ⟨a.truncate, ?_, rfl⟩
    show Except.bind (FieldKind.date.decode (FieldValue.date a.truncate).payload) _ = _
    rw [FieldKind.decode_date (m := a.truncate) hf (show 0 < nanosPerSecond by decide)]
    rfl
  | geoPoint =>
    cases h
    exact ⟨a, (ofPayload_geoPoint a.text).trans (GeoPoint.ofText_text hf), rfl⟩
  | structured β =>
    obtain ⟨s, hs, rfl⟩ := toField_structured h
    obtain ⟨hread, hvalue⟩ := hf s hs
    exact ⟨a, by rw [FieldValue.payload, ofPayload_structured, if_pos hread, hvalue], rfl⟩
  | option t ih =>
    cases a with
    | none => exact absurd h (by simp [toField, FieldType.toField])
    | some a =>
      obtain ⟨b, hb, hagree⟩ := ih h (hf a rfl)
      exact ⟨some b, by rw [ofPayload_option, hb]; rfl, .some hagree⟩

/-- **Exactly readable values are read.** -/
theorem exists_ofPayload_iff {a : α} {v : FieldValue} (h : t.toField a = .ok (some v)) :
    (∃ b, t.ofPayload v.payload = .ok b) ↔ t.IsReadable a := by
  induction t generalizing v with
  | moment =>
    cases h
    refine ⟨?_, fun hy => ?_⟩
    · rintro ⟨b, hb⟩
      by_contra hy
      have hdecode := FieldKind.decode_date_of_signed (m := a.truncate) hy
      simp only [ofPayload, kind, FieldType.kind, hdecode, Except.bind] at hb
      cases hb
    · obtain ⟨b, hb, -⟩ := ofPayload_of_isFaithful moment (a := a) rfl hy
      exact ⟨b, hb⟩
  | geoPoint =>
    cases h
    refine ⟨fun _ => trivial, fun _ => ?_⟩
    obtain ⟨q, hq⟩ := a.exists_ofText_text
    exact ⟨q, (ofPayload_geoPoint a.text).trans hq⟩
  | structured β =>
    obtain ⟨s, hs, rfl⟩ := toField_structured h
    have hiff : (structured β).IsReadable a ↔
        (Json.read? s).isSome ∧ (JsonData.read? s : Option β).isSome := by
      refine ⟨fun hr => hr s hs, fun hr t ht => ?_⟩
      rw [hs, Option.some.injEq] at ht
      exact ht ▸ hr
    rw [FieldValue.payload, ofPayload_structured, hiff]
    by_cases hread : (Json.read? s).isSome
    · rw [if_pos hread]
      cases (JsonData.read? s : Option β) with
      | none => simp [hread]
      | some b => simp [hread]
    · simp [hread]
  | option t ih =>
    cases a with
    | none => exact absurd h (by simp [toField, FieldType.toField])
    | some a =>
      have hiff : (∃ b, t.ofPayload v.payload = .ok b) ↔ t.option.IsReadable (some a) := by
        rw [ih h]
        simp only [IsReadable, Option.mem_some_iff, forall_eq']
      rw [ofPayload_option, ← hiff]
      cases t.ofPayload v.payload with
      | error e => simp [Except.map]
      | ok b => simp [Except.map]
  | _ =>
    obtain ⟨b, hb, -⟩ := ofPayload_of_isFaithful _ h trivial
    exact ⟨fun _ => trivial, fun _ => ⟨b, hb⟩⟩

end PropertyType
end Catalog
