import Catalog.Proofs.Field.Accepted
import Catalog.Proofs.Record.Sample

/-!
# Reading any document

A document that comes from an index may hold anything: fields may be missing, and values may be of a
wrong type, too large, or texts that are no date, no point and no JSON. It is a record if every
property finds nothing or what it can read, and then each property is what was read, or as in the
blank record. Otherwise there is no record, and the first property that cannot read what it finds is
the one that is reported.

## Main definitions

* `PropertyType.Reads`: which value a type reads from what a field holds
* `FieldKind.Refuses`: what is reported of anything else
* `Property.ReadsIn`: a property finds nothing, or what it can read

## Main results

* `PropertyType.ofPayload_eq_ok_iff`: a type reads a payload as the value that it should
* `Property.reads_or_refuses`: what a property makes of the value of its field
* `RecordDescription.ofStored_reads`: which documents are records, which records they are, and what
  is reported of the others
-/

namespace Catalog

namespace StoredValue

/-- Whether a value is a signed integer of some amount. -/
def IsInteger (v : StoredValue) (amount : Int) : Prop :=
  ∃ n : Int64, v = .payload (.signed n) ∧ n.toInt = amount

/-- Whether a value is a text of some form. -/
def IsText (v : StoredValue) (form : String → Prop) : Prop :=
  ∃ s, v = .payload (.text s) ∧ form s

theorem isInteger_signed {n : Int64} {amount : Int} :
    (payload (.signed n)).IsInteger amount ↔ n.toInt = amount :=
  ⟨fun ⟨_, hn, h⟩ => by cases hn; exact h, fun h => ⟨n, rfl, h⟩⟩

theorem isText_text {s : String} {form : String → Prop} :
    (payload (.text s)).IsText form ↔ form s :=
  ⟨fun ⟨_, hs, h⟩ => by cases hs; exact h, fun h => ⟨s, rfl, h⟩⟩

end StoredValue

/-! ### What a type reads -/

namespace PropertyType

/-- Which value of the type is read from what a field holds. -/
def Reads : {α : Type} → PropertyType α → StoredValue → α → Prop
  | _, int8 | _, int16 | _, int32 | _, int64 => fun v a => v.IsInteger a.toInt
  | _, uint8 | _, uint16 | _, uint32 => fun v a => v.IsInteger a.toNat
  | _, uint64 => fun v a => v = .payload (.unsigned a)
  | _, double => fun v a => v = .payload (.double a)
  | _, single => fun v a => ∃ x : Double, v = .payload (.double x) ∧ a = x.narrow
  | _, string => fun v a => v = .payload (.text a)
  | _, recordId => fun v a => v = .payload (.text a.text)
  | _, moment => fun v a => v.IsText fun s => Moment.ofStamp? s = some a
  | _, geoPoint => fun v a => v.IsText fun s => GeoPoint.ofText s = .ok a
  | _, structured _ => fun v a => v.IsText fun s =>
      (Json.read? s).isSome ∧ JsonData.read? s = some a.value
  | _, option t => fun v a => ∃ b ∈ a, t.Reads v b

variable {α : Type} (t : PropertyType α)

/-- Only payloads of the store type of a type are read. -/
theorem exists_of_reads {v : StoredValue} {a : α} (h : t.Reads v a) :
    ∃ p, v = .payload p ∧ p.type = t.kind.storeType := by
  induction t with
  | int8 | int16 | int32 | int64 | uint8 | uint16 | uint32 =>
    obtain ⟨n, rfl, -⟩ := h
    exact ⟨_, rfl, rfl⟩
  | uint64 | double | string | recordId => exact ⟨_, h, rfl⟩
  | single =>
    obtain ⟨x, rfl, -⟩ := h
    exact ⟨_, rfl, rfl⟩
  | moment | geoPoint | structured =>
    obtain ⟨s, rfl, -⟩ := h
    exact ⟨_, rfl, rfl⟩
  | option t ih =>
    obtain ⟨b, -, hb⟩ := h
    exact ih hb

/-- Other payloads are refused. -/
theorem exists_ofPayload_eq_error {p : Payload} (hp : p.type ≠ t.kind.storeType) :
    ∃ e, t.ofPayload p = .error e := by
  have hdecode : ∃ e, t.kind.decode p = .error e := by
    revert hp
    cases t.kind <;> cases p <;> simp [FieldKind.storeType, Payload.type, FieldKind.decode]
  obtain ⟨e, he⟩ := hdecode
  exact ⟨e, by rw [ofPayload, he]; rfl⟩

/-- An integer is read as the one of the same amount, which the type has to have. -/
theorem ofPayload_eq_ok_iff_isInteger {least greatest : Int} (toInt : α → Int) (ofInt : Int → α)
    (ht : t.fieldType = .ofIntegers least greatest toInt ofInt)
    (hrange : ∀ a, least ≤ toInt a ∧ toInt a ≤ greatest) (hofInt : ∀ a, ofInt (toInt a) = a)
    (htoInt : ∀ n, least ≤ n ∧ n ≤ greatest → toInt (ofInt n) = n) {p : Payload} {a : α} :
    t.ofPayload p = .ok a ↔ (StoredValue.payload p).IsInteger (toInt a) := by
  rw [ofPayload, kind, ht]
  cases p with
  | signed n =>
    rw [StoredValue.isInteger_signed]
    show (if least ≤ n.toInt ∧ n.toInt ≤ greatest then Except.ok (ofInt n.toInt)
      else .error (CodecError.outOfRange n.toInt)) = .ok a ↔ _
    split
    · next h =>
      constructor
      · rintro ⟨⟩
        exact (htoInt _ h).symm
      · intro heq
        rw [heq, hofInt]
    · next h =>
      refine iff_of_false (fun herror => ?_) fun heq => h (heq ▸ hrange a)
      cases herror
  | _ =>
    refine iff_of_false (fun herror => ?_) ?_
    · cases herror
    · rintro ⟨n, hn, -⟩
      cases hn

theorem ofPayload_eq_ok_iff_isNatural {bits : Nat} (toNat : α → Nat) (ofNat : Nat → α)
    (ht : t.fieldType =
      .ofIntegers 0 (2 ^ bits - 1) (fun a => (toNat a : Int)) fun n => ofNat n.toNat)
    (hlt : ∀ a, toNat a < 2 ^ bits) (hofNat : ∀ a, ofNat (toNat a) = a)
    (htoNat : ∀ n < 2 ^ bits, toNat (ofNat n) = n) {p : Payload} {a : α} :
    t.ofPayload p = .ok a ↔ (StoredValue.payload p).IsInteger (toNat a) := by
  refine t.ofPayload_eq_ok_iff_isInteger _ _ ht (fun a => ?_) hofNat fun n hn => ?_
  · have hcast := Int.ofNat_lt.mpr (hlt a)
    push_cast at hcast
    omega
  · have hcast : ((2 ^ bits : Nat) : Int) = 2 ^ bits := by push_cast; rfl
    rw [htoNat n.toNat (by omega)]
    omega

/-- A payload of the store type of a type is read as the value that it should. -/
theorem ofPayload_eq_ok_iff_of_type {p : Payload} (hp : p.type = t.kind.storeType) {a : α} :
    t.ofPayload p = .ok a ↔ t.Reads (.payload p) a := by
  induction t with
  | int8 =>
    exact ofPayload_eq_ok_iff_isInteger _ _ _ rfl (fun a => ⟨a.le_toInt, a.toInt_le⟩)
      (fun a => a.ofInt_toInt) fun n h => Int8.toInt_ofInt_of_le h.1 (Int.lt_of_le_sub_one h.2)
  | int16 =>
    exact ofPayload_eq_ok_iff_isInteger _ _ _ rfl (fun a => ⟨a.le_toInt, a.toInt_le⟩)
      (fun a => a.ofInt_toInt) fun n h => Int16.toInt_ofInt_of_le h.1 (Int.lt_of_le_sub_one h.2)
  | int32 =>
    exact ofPayload_eq_ok_iff_isInteger _ _ _ rfl (fun a => ⟨a.le_toInt, a.toInt_le⟩)
      (fun a => a.ofInt_toInt) fun n h => Int32.toInt_ofInt_of_le h.1 (Int.lt_of_le_sub_one h.2)
  | int64 =>
    exact ofPayload_eq_ok_iff_isInteger _ _ _ rfl (fun a => ⟨a.le_toInt, a.toInt_le⟩)
      (fun a => a.ofInt_toInt) fun n h => Int64.toInt_ofInt_of_le h.1 (Int.lt_of_le_sub_one h.2)
  | uint8 =>
    exact ofPayload_eq_ok_iff_isNatural _ UInt8.toNat Nat.toUInt8 rfl UInt8.toNat_lt
      (fun a => a.ofNat_toNat) fun n h => UInt8.toNat_ofNat_of_lt' h
  | uint16 =>
    exact ofPayload_eq_ok_iff_isNatural _ UInt16.toNat Nat.toUInt16 rfl UInt16.toNat_lt
      (fun a => a.ofNat_toNat) fun n h => UInt16.toNat_ofNat_of_lt' h
  | uint32 =>
    exact ofPayload_eq_ok_iff_isNatural _ UInt32.toNat Nat.toUInt32 rfl UInt32.toNat_lt
      (fun a => a.ofNat_toNat) fun n h => UInt32.toNat_ofNat_of_lt' h
  | uint64 =>
    obtain ⟨n, rfl⟩ := Payload.exists_of_type_unsigned hp
    show Except.ok n = .ok a ↔ StoredValue.payload (.unsigned n) = .payload (.unsigned a)
    simp
  | double =>
    obtain ⟨x, rfl⟩ := Payload.exists_of_type_double hp
    show Except.ok x = .ok a ↔ StoredValue.payload (.double x) = .payload (.double a)
    simp
  | single =>
    obtain ⟨x, rfl⟩ := Payload.exists_of_type_double hp
    show Except.ok x.narrow = .ok a ↔
      ∃ y : Double, StoredValue.payload (.double x) = .payload (.double y) ∧ a = y.narrow
    simp [eq_comm]
  | string =>
    obtain ⟨s, rfl⟩ := Payload.exists_of_type_text hp
    show Except.ok s = .ok a ↔ StoredValue.payload (.text s) = .payload (.text a)
    simp
  | recordId =>
    obtain ⟨s, rfl⟩ := Payload.exists_of_type_text hp
    show Except.ok (RecordId.mk s) = .ok a ↔
      StoredValue.payload (.text s) = .payload (.text a.text)
    cases a
    simp
  | moment =>
    obtain ⟨s, rfl⟩ := Payload.exists_of_type_text hp
    refine Iff.trans ?_ StoredValue.isText_text.symm
    rw [ofPayload_moment]
    cases Moment.ofStamp? s <;> simp
  | geoPoint =>
    obtain ⟨s, rfl⟩ := Payload.exists_of_type_text hp
    refine Iff.trans ?_ StoredValue.isText_text.symm
    rw [ofPayload_geoPoint]
  | structured β =>
    obtain ⟨s, rfl⟩ := Payload.exists_of_type_text hp
    refine Iff.trans ?_ StoredValue.isText_text.symm
    rw [ofPayload_structured]
    cases a
    split
    · next hread =>
      rw [and_iff_right hread]
      cases (JsonData.read? s : Option β) <;> simp
    · next hread => exact iff_of_false nofun fun h => hread h.1
  | option t ih =>
    rw [ofPayload_option, Reads]
    cases hread : t.ofPayload p with
    | ok b =>
      have hb := fun c => (ih (a := c) hp).symm
      simp only [hb, hread, Except.map, Except.ok.injEq]
      simp [eq_comm]
    | error e =>
      have hnone := fun b => (ih (a := b) hp).symm
      simp only [hnone, hread, Except.map]
      simp

/-- **A type reads a payload as the value that it should.** -/
theorem ofPayload_eq_ok_iff {p : Payload} {a : α} :
    t.ofPayload p = .ok a ↔ t.Reads (.payload p) a := by
  by_cases hp : p.type = t.kind.storeType
  · exact t.ofPayload_eq_ok_iff_of_type hp
  · obtain ⟨e, he⟩ := t.exists_ofPayload_eq_error hp
    refine iff_of_false (by rw [he]; nofun) fun hreads => ?_
    obtain ⟨p', hp', htype⟩ := t.exists_of_reads hreads
    cases hp'
    exact hp htype

end PropertyType

/-! ### What a property makes of the value of its field -/

/-- What a kind reports of a value that is refused: the type if it is wrong, else what is wrong with
the payload. -/
inductive FieldKind.Refuses (k : FieldKind) : StoredValue → CodecError → Prop
  | foreign : Refuses k .foreign (.kindMismatch k .stored)
  | type {p : Payload} (h : p.type ≠ k.storeType) : Refuses k (.payload p) (.kindMismatch k .stored)
  | payload {p : Payload} {e : CodecError} (h : k.IsRefusal p e) : Refuses k (.payload p) e

variable {ρ : Type}

namespace Property

variable {P : Property ρ} {d : StoredDocument}

/-- Whether a property finds nothing in a document, or what it can read. -/
def ReadsIn (P : Property ρ) (d : StoredDocument) : Prop :=
  ∀ v, d.first? P.binding.field = some v → ∃ a, P.type.Reads v a

theorem readStored?_of_absent (h : d.first? P.binding.field = none) :
    P.readStored? d = .ok none := by
  rw [readStored?, h]

theorem readStored?_of_refused {v : StoredValue} (h : d.first? P.binding.field = some v)
    (hv : P.type.kind.readValue? v = none) :
    P.readStored? d = .error (.inField P.binding.field (.kindMismatch P.type.kind .stored)) := by
  rw [← P.binding_kind] at hv ⊢
  simp only [readStored?, h, hv]

theorem readStored?_of_payload {v : StoredValue} (h : d.first? P.binding.field = some v)
    {p : Payload} (hv : P.type.kind.readValue? v = some p) : P.readStored? d = P.ofPayload p := by
  rw [← P.binding_kind] at hv
  simp only [readStored?, h, hv]

/-- **A property reads the value of its field or refuses it**, and the error names the field. -/
theorem reads_or_refuses {v : StoredValue} (h : d.first? P.binding.field = some v) :
    (∃ a, P.readStored? d = .ok (some a) ∧ P.type.Reads v a) ∨
      ∃ cause, P.readStored? d = .error (.inField P.binding.field cause) ∧
        (¬ ∃ a, P.type.Reads v a) ∧ P.type.kind.Refuses v cause := by
  cases v with
  | foreign =>
    refine .inr ⟨_, readStored?_of_refused h rfl, ?_, .foreign⟩
    rintro ⟨a, ha⟩
    obtain ⟨p, hp, -⟩ := P.type.exists_of_reads ha
    cases hp
  | payload p =>
    by_cases htype : p.type = P.type.kind.storeType
    · have hread := readStored?_of_payload h (if_pos htype)
      rw [ofPayload] at hread
      cases hpayload : P.type.ofPayload p with
      | ok a =>
        rw [hpayload] at hread
        exact .inl ⟨a, hread, P.type.ofPayload_eq_ok_iff.mp hpayload⟩
      | error e =>
        rw [hpayload] at hread
        have hrefusal := ((P.type.isReading_ofPayload htype).of_error hpayload).2
        refine .inr ⟨e, hread.trans ?_, ?_, .payload hrefusal⟩
        · rw [← hrefusal.attribute]
        · rintro ⟨a, ha⟩
          rw [P.type.ofPayload_eq_ok_iff.mpr ha] at hpayload
          cases hpayload
    · refine .inr ⟨_, readStored?_of_refused h (if_neg htype), ?_, .type htype⟩
      rintro ⟨a, ha⟩
      obtain ⟨p', hp', htype'⟩ := P.type.exists_of_reads ha
      cases hp'
      exact htype htype'

theorem exists_readStored?_iff : (∃ o, P.readStored? d = .ok o) ↔ P.ReadsIn d := by
  cases hfirst : d.first? P.binding.field with
  | none =>
    refine iff_of_true ⟨none, readStored?_of_absent hfirst⟩ fun v hv => ?_
    rw [hfirst] at hv
    cases hv
  | some v =>
    rcases reads_or_refuses hfirst with ⟨a, hread, ha⟩ | ⟨cause, hread, hnone, -⟩
    · refine iff_of_true ⟨_, hread⟩ fun v' hv' => ?_
      rw [hfirst] at hv'
      cases hv'
      exact ⟨a, ha⟩
    · refine iff_of_false ?_ fun h => hnone (h v hfirst)
      rw [hread]
      nofun

end Property

/-! ### Records -/

namespace RecordDescription

/-- **Which documents are records.** Whatever a document holds, it is a record just if each property
finds nothing in it or what it can read. Then the properties are what was read, those that find
nothing and everything else are as in the blank record. Otherwise the first property in the order of
the bindings that finds what it cannot read is reported. The description asks for properties that
give back what is put into them and do not touch one another. -/
theorem ofStored_reads {R : RecordDescription ρ} {s : Schema ρ}
    (h : Schema.build R.recordType = .ok s) (d : StoredDocument) :
    s.bindings = R.properties.map Property.binding ∧
    ((∃ r, s.ofStored R.blank d = .ok r) ↔ ∀ P ∈ R.properties, P.ReadsIn d) ∧
    (∀ r, s.ofStored R.blank d = .ok r →
      (∀ P ∈ R.properties, ∀ v, d.first? P.binding.field = some v → P.type.Reads v (P.get r)) ∧
      (∀ P ∈ R.properties, d.first? P.binding.field = none → P.get r = P.get R.blank) ∧
      ∀ {β : Type} (observe : ρ → β),
        (∀ P ∈ R.properties, ∀ r a, observe (P.set r a) = observe r) →
        observe r = observe R.blank) ∧
    ∀ e, s.ofStored R.blank d = .error e →
      ∃ before P after v cause, R.properties = before ++ P :: after ∧
        (∀ Q ∈ before, Q.ReadsIn d) ∧ d.first? P.binding.field = some v ∧
        (¬ ∃ a, P.type.Reads v a) ∧ P.type.kind.Refuses v cause ∧
        e = .inField P.binding.field cause := by
  refine ⟨?_, ?_, fun r hr => ⟨fun P hP v hv => ?_, fun P hP hnone => ?_, fun observe hobserve => ?_⟩,
    fun e he => ?_⟩
  · rw [Schema.bindings, columns_of_build h, List.map_map]
    rfl
  · exact (exists_ofStored_iff h).trans
      (forall₂_congr fun P _ => Property.exists_readStored?_iff)
  · rcases Property.reads_or_refuses hv with ⟨a, hread, ha⟩ | ⟨cause, hread, -⟩
    · rw [get_ofStored h hr hP hread]
      exact ha
    · obtain ⟨o, ho⟩ := (exists_ofStored_iff h).mp ⟨r, hr⟩ P hP
      rw [hread] at ho
      cases ho
  · rw [get_ofStored h hr hP (Property.readStored?_of_absent hnone)]
    rfl
  · exact ofStored_of_untouched h hr hobserve
  · obtain ⟨before, P, after, hsplit, hbefore, hP⟩ := exists_of_ofStored_error h he
    have hreads : ∀ Q ∈ before, Q.ReadsIn d := fun Q hQ =>
      Property.exists_readStored?_iff.mp (hbefore Q hQ)
    cases hfirst : d.first? P.binding.field with
    | none =>
      rw [Property.readStored?_of_absent hfirst] at hP
      cases hP
    | some v =>
      rcases Property.reads_or_refuses hfirst with ⟨a, hread, -⟩ | ⟨cause, hread, hnone, hrefuses⟩
      · rw [hread] at hP
        cases hP
      · rw [hread] at hP
        cases hP
        exact ⟨before, P, after, v, cause, hsplit, hreads, hfirst, hnone, hrefuses, rfl⟩

/-- What an index has of a venue whose small number has become too large, and which is opened at no
date. -/
def corruptVenue : StoredDocument :=
  ⟨[("key", .payload (.text "v1")), ("other", .foreign), ("rank", .payload (.signed 3)),
    ("opened", .payload (.text "not-a-date")), ("small", .payload (.signed 300))]⟩

/-- The number is reported, since it comes before the date in the order of the bindings. -/
theorem ofStored_reads_corruptVenue :
    Schema.build Venue.description.recordType = .ok Venue.schema ∧
    Venue.schema.ofStored Venue.blank corruptVenue = .error (.inField "small" (.outOfRange 300)) ∧
    ∃ before P after v cause, Venue.description.properties = before ++ P :: after ∧
      (∀ Q ∈ before, Q.ReadsIn corruptVenue) ∧ corruptVenue.first? P.binding.field = some v ∧
      (¬ ∃ a, P.type.Reads v a) ∧ P.type.kind.Refuses v cause ∧
      CodecError.inField "small" (.outOfRange 300) = .inField P.binding.field cause :=
  ⟨Venue.build_description, rfl,
    (ofStored_reads Venue.build_description corruptVenue).2.2.2 _ rfl⟩

end RecordDescription

end Catalog
