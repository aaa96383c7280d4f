import Catalog.Proofs.Field.PropertyType

/-!
# The payloads that a type accepts

A field has the store type of a kind, but several kinds have the same one, and a type may have fewer
values than its kind. So a payload of the right store type can still be refused: an integer that is
too large, a text that is no date, no point or no JSON of the type. Texts, identities, long unsigned
integers and decimals refuse nothing.

## Main definitions

* `PropertyType.Accepts`: the payloads that are read as values of a type
* `FieldKind.IsRefusal`: what is reported of other payloads of the store type
* `PropertyType.IsReading`: what reading a payload may give

## Main results

* `PropertyType.isReading_ofPayload`: a payload of the store type is accepted or refused
-/

namespace Catalog

namespace Payload

/-- Whether a payload is an integer between two bounds. -/
def IsBetween (least greatest : Int) : Payload → Prop
  | signed n => least ≤ n.toInt ∧ n.toInt ≤ greatest
  | _ => False

/-- Whether a payload is a text of some form. -/
def IsText (form : String → Prop) : Payload → Prop
  | text s => form s
  | _ => False

variable {p : Payload}

theorem exists_of_type_text (h : p.type = .text) : ∃ s, p = .text s := by
  cases p <;> cases h
  exact ⟨_, rfl⟩

theorem exists_of_type_signed (h : p.type = .signed) : ∃ n, p = .signed n := by
  cases p <;> cases h
  exact ⟨_, rfl⟩

theorem exists_of_type_unsigned (h : p.type = .unsigned) : ∃ n, p = .unsigned n := by
  cases p <;> cases h
  exact ⟨_, rfl⟩

theorem exists_of_type_double (h : p.type = .double) : ∃ x, p = .double x := by
  cases p <;> cases h
  exact ⟨_, rfl⟩

end Payload

/-- What is reported of a text that is no point is that text. -/
theorem GeoPoint.eq_of_ofText_error {s : String} {e : CodecError}
    (h : GeoPoint.ofText s = .error e) : e = .invalidGeo s := by
  unfold GeoPoint.ofText at h
  split at h
  · split at h <;> cases h
    rfl
  · cases h
    rfl

/-- What a kind reports of a payload of its store type that is refused. -/
inductive FieldKind.IsRefusal : FieldKind → Payload → CodecError → Prop
  | int (n : Int64) : IsRefusal .int (.signed n) (.outOfRange n.toInt)
  | date (s : String) : IsRefusal .date (.text s) (.invalidDate s)
  | geo (s : String) : IsRefusal .geo (.text s) (.invalidGeo s)
  | structured (s : String) : IsRefusal .structured (.text s) .structured

/-- A refusal has no field yet. -/
theorem FieldKind.IsRefusal.attribute {k : FieldKind} {p : Payload} {e : CodecError}
    (h : k.IsRefusal p e) (field : String) : e.attribute field = .inField field e := by
  cases h <;> rfl

namespace PropertyType

variable {α : Type}

/-- Whether a payload is read as a value of the type. -/
def Accepts : {α : Type} → PropertyType α → Payload → Prop
  | _, int8 => Payload.IsBetween (-2 ^ 7) (2 ^ 7 - 1)
  | _, int16 => Payload.IsBetween (-2 ^ 15) (2 ^ 15 - 1)
  | _, int32 => Payload.IsBetween (-2 ^ 31) (2 ^ 31 - 1)
  | _, int64 => Payload.IsBetween (-2 ^ 63) (2 ^ 63 - 1)
  | _, uint8 => Payload.IsBetween 0 (2 ^ 8 - 1)
  | _, uint16 => Payload.IsBetween 0 (2 ^ 16 - 1)
  | _, uint32 => Payload.IsBetween 0 (2 ^ 32 - 1)
  | _, uint64 => fun p => p.type = .unsigned
  | _, double | _, single => fun p => p.type = .double
  | _, string | _, recordId => fun p => p.type = .text
  | _, moment => Payload.IsText fun s => (Moment.ofStamp? s).isSome
  | _, geoPoint => Payload.IsText fun s => ∃ q, GeoPoint.ofText s = .ok q
  | _, structured α => Payload.IsText fun s =>
      (Json.read? s).isSome ∧ (JsonData.read? s : Option α).isSome
  | _, option t => t.Accepts

/-- What reading a payload may give: a value if it is accepted, else what its kind reports. -/
inductive IsReading (accepted : Prop) (k : FieldKind) (p : Payload) : Except CodecError α → Prop
  | value (h : accepted) (a : α) : IsReading accepted k p (.ok a)
  | refusal (h : ¬ accepted) {e : CodecError} (he : k.IsRefusal p e) :
      IsReading accepted k p (.error e)

namespace IsReading

variable {accepted : Prop} {k : FieldKind} {p : Payload} {result : Except CodecError α}

theorem exists_ok_iff (h : IsReading accepted k p result) : (∃ a, result = .ok a) ↔ accepted := by
  cases h with
  | value h a => exact iff_of_true ⟨a, rfl⟩ h
  | refusal h he => exact iff_of_false nofun h

theorem of_error {e : CodecError} (h : IsReading accepted k p result) (he : result = .error e) :
    ¬ accepted ∧ k.IsRefusal p e := by
  cases h with
  | value h a => cases he
  | refusal h hrefusal =>
    cases he
    exact ⟨h, hrefusal⟩

end IsReading

variable (t : PropertyType α) {p : Payload}

theorem isReading_ofIntegers {least greatest : Int} (toInt : α → Int) (ofInt : Int → α)
    (ht : t.fieldType = .ofIntegers least greatest toInt ofInt) (hp : p.type = .signed) :
    IsReading (p.IsBetween least greatest) .int p (t.ofPayload p) := by
  obtain ⟨n, rfl⟩ := Payload.exists_of_type_signed hp
  rw [ofPayload, kind, ht]
  show IsReading _ _ _ (if least ≤ n.toInt ∧ n.toInt ≤ greatest then
    Except.ok (ofInt n.toInt) else .error (.outOfRange n.toInt))
  split
  · next h => exact .value h _
  · next h => exact .refusal h (.int n)

/-- **A payload of the store type of a kind is accepted or refused.** It is never taken for one of
another kind. -/
theorem isReading_ofPayload (hp : p.type = t.kind.storeType) :
    IsReading (t.Accepts p) t.kind p (t.ofPayload p) := by
  -- Only narrow integers and the texts of dates, points and structured values can be refused.
  induction t with
  | int8 | int16 | int32 | int64 => exact isReading_ofIntegers _ _ _ rfl hp
  | uint8 => exact isReading_ofIntegers _ (fun n => n.toNat) (fun n => n.toNat.toUInt8) rfl hp
  | uint16 => exact isReading_ofIntegers _ (fun n => n.toNat) (fun n => n.toNat.toUInt16) rfl hp
  | uint32 => exact isReading_ofIntegers _ (fun n => n.toNat) (fun n => n.toNat.toUInt32) rfl hp
  | uint64 =>
    obtain ⟨n, rfl⟩ := Payload.exists_of_type_unsigned hp
    exact .value rfl n
  | double =>
    obtain ⟨x, rfl⟩ := Payload.exists_of_type_double hp
    exact .value rfl x
  | single =>
    obtain ⟨x, rfl⟩ := Payload.exists_of_type_double hp
    exact .value rfl x.narrow
  | string =>
    obtain ⟨s, rfl⟩ := Payload.exists_of_type_text hp
    exact .value rfl s
  | recordId =>
    obtain ⟨s, rfl⟩ := Payload.exists_of_type_text hp
    exact .value rfl (⟨s⟩ : RecordId)
  | moment =>
    obtain ⟨s, rfl⟩ := Payload.exists_of_type_text hp
    cases hs : Moment.ofStamp? s with
    | some m =>
      rw [ofPayload_moment, hs]
      exact .value (Option.isSome_of_eq_some hs) m
    | none =>
      rw [ofPayload_moment, hs]
      exact .refusal (Option.not_isSome_iff_eq_none.mpr hs) (.date s)
  | geoPoint =>
    obtain ⟨s, rfl⟩ := Payload.exists_of_type_text hp
    rw [ofPayload_geoPoint]
    show IsReading (∃ q, GeoPoint.ofText s = .ok q) _ _ _
    cases hs : GeoPoint.ofText s with
    | ok q => exact .value ⟨q, rfl⟩ q
    | error e =>
      obtain rfl := GeoPoint.eq_of_ofText_error hs
      exact .refusal (by simp) (.geo s)
  | structured β =>
    obtain ⟨s, rfl⟩ := Payload.exists_of_type_text hp
    rw [ofPayload_structured]
    show IsReading ((Json.read? s).isSome ∧ (JsonData.read? s : Option β).isSome) _ _ _
    split
    · next hread =>
      cases (JsonData.read? s : Option β) with
      | some b => exact .value ⟨hread, rfl⟩ _
      | none => exact .refusal (by simp) (.structured s)
    · next hread => exact .refusal (fun h => hread h.1) (.structured s)
  | option t ih =>
    have h := ih hp
    rw [ofPayload_option]
    show IsReading (t.Accepts p) t.kind p _
    cases hread : t.ofPayload p with
    | ok a =>
      rw [hread] at h
      exact .value (h.exists_ok_iff.mp ⟨a, rfl⟩) _
    | error e =>
      obtain ⟨hrefused, he⟩ := h.of_error hread
      exact .refusal hrefused he

end PropertyType

end Catalog
