import Catalog.Proofs.Record.Sample

/-!
# Records and their documents

What is read from the document of a record, property by property. A present value is read from the
payload that was written for it, an absent one is not there; so the record is found again where its
texts are read as what they were written for, and it is readable at all exactly if its dates have
years of four digits and its structured values have texts that their types read.

## Main results

* `Property.read?_toDocument`: what the document of a record has for a property
* `RecordDescription.ofDocument_toDocument`: the record is found again
* `RecordDescription.exists_ofDocument_toDocument_iff`: which records are readable at all
-/

namespace Catalog

variable {ρ : Type}

/-! ### One property -/

namespace Property

variable {s : Schema ρ} {r : ρ} {implicit : Option RecordId} {d : Document} {P : Property ρ}

/-- A column of a property writes what the type of the property writes. -/
theorem values_column_of_toField {v : FieldValue} (h : P.type.toField (P.get r) = .ok (some v))
    {part : List (String × Payload)} (hpart : P.column.values r = .ok part) :
    part.head? = some (P.binding.field, v.payload) := by
  have hread : P.column.accessor.read r = .ok (some v) := h
  have hencode : P.column.binding.kind.encode v = .ok v.payload := by
    rw [show P.column.binding.kind = v.kind from
      P.binding_kind.trans (P.type.kind_of_toField h).symm, v.encode_kind]
  rcases Column.values_eq hpart with ⟨hnone, -⟩ | ⟨v', p, rest, hsome, hp, rfl, -⟩
  · rw [hread] at hnone
    exact absurd hnone (by simp)
  · rw [hread, Except.ok.injEq, Option.some.injEq] at hsome
    subst hsome
    rw [hencode] at hp
    cases hp
    rfl

theorem toField_of_values {part : List (String × Payload)} (hpart : P.column.values r = .ok part) :
    ∃ o, P.type.toField (P.get r) = .ok o := by
  rcases Column.values_eq hpart with ⟨hnone, -⟩ | ⟨v, p, rest, hsome, -⟩
  · exact ⟨_, hnone⟩
  · exact ⟨_, hsome⟩

theorem values_column_of_absent (h : P.type.toField (P.get r) = .ok none)
    {part : List (String × Payload)} (hpart : P.column.values r = .ok part) : part = [] := by
  have hread : P.column.accessor.read r = .ok none := h
  rcases Column.values_eq hpart with ⟨-, rfl⟩ | ⟨v, p, rest, hsome, -⟩
  · rfl
  · rw [hread] at hsome
    exact absurd hsome (by simp)

/-- The document of a record has nothing for a property that is absent, and for one that is present
the payload that was written. -/
theorem read?_toDocument (hnodup : (s.storeFields.map StoreField.name).Nodup)
    (himplicit : s.Admits implicit) (hd : s.toDocument r implicit = .ok d)
    (hP : P.column ∈ s.columns) :
    (P.type.toField (P.get r) = .ok none ∧ P.read? d = .ok none) ∨
      ∃ v, P.type.toField (P.get r) = .ok (some v) ∧
        P.read? d = P.ofPayload v.payload := by
  obtain ⟨part, hpart, hfirst⟩ := first?_toDocument hnodup himplicit hd hP
  have hfirst : d.first? P.binding.field = part.head?.map Prod.snd := hfirst
  obtain ⟨o, ho⟩ := toField_of_values hpart
  cases o with
  | none =>
    rw [values_column_of_absent ho hpart] at hfirst
    exact .inl ⟨ho, by rw [read?, hfirst]; rfl⟩
  | some v =>
    rw [values_column_of_toField ho hpart, Option.map_some] at hfirst
    have htype : v.payload.type = P.binding.kind.storeType := by
      rw [P.binding_kind, ← P.type.kind_of_toField ho]
      exact FieldKind.type_of_encode v.encode_kind
    refine .inr ⟨v, ho, ?_⟩
    simp only [read?, hfirst, FieldKind.readStored?, if_pos htype]

end Property

/-! ### The record -/

namespace RecordDescription

variable {R : RecordDescription ρ} {s : Schema ρ}

theorem column_mem_of_build (h : Schema.build R.recordType = .ok s) {P : Property ρ}
    (hP : P ∈ R.properties) : P.column ∈ s.columns := by
  rw [columns_of_build h]
  exact List.mem_map_of_mem hP

/-- **A record is found again in its document.** Present properties agree with what they were,
absent ones are as in the blank record, and so is whatever no property sets. The description asks
for properties that give back what is put into them and do not touch one another. -/
theorem ofDocument_toDocument (hs : Schema.build R.recordType = .ok s)
    (hnodup : (s.storeFields.map StoreField.name).Nodup) {r : ρ} {implicit : Option RecordId}
    (himplicit : s.Admits implicit) {d : Document} (hd : s.toDocument r implicit = .ok d)
    (hfaithful : ∀ P ∈ R.properties, P.type.IsFaithful (P.get r)) :
    ∃ r', s.ofDocument R.blank d = .ok r' ∧
      (∀ P ∈ R.properties, P.type.IsPresent (P.get r) → P.type.Agrees (P.get r) (P.get r')) ∧
      (∀ P ∈ R.properties, ¬ P.type.IsPresent (P.get r) → P.get r' = P.get R.blank) ∧
      ∀ (β : Type) (observe : ρ → β), (∀ P ∈ R.properties, ∀ r a, observe (P.set r a) = observe r) →
        observe r' = observe R.blank := by
  have hread := fun P (hP : P ∈ R.properties) =>
    Property.read?_toDocument hnodup himplicit hd (column_mem_of_build hs hP)
  obtain ⟨r', hr'⟩ := (exists_ofDocument_iff hs).mpr fun P hP => by
    rcases hread P hP with ⟨-, hnone⟩ | ⟨v, hv, hsome⟩
    · exact ⟨none, hnone⟩
    · obtain ⟨b, hb, -⟩ := P.type.ofPayload_of_isFaithful hv (hfaithful P hP)
      exact ⟨some b, by rw [hsome, Property.ofPayload, hb]⟩
  refine ⟨r', hr', fun P hP hpresent => ?_, fun P hP habsent => ?_, fun β observe hobserve =>
    ofDocument_of_untouched hs hr' hobserve⟩
  · rcases hread P hP with ⟨hnone, -⟩ | ⟨v, hv, hsome⟩
    · exact absurd hpresent (P.type.not_isPresent_of_toField hnone)
    · obtain ⟨b, hb, hagrees⟩ := P.type.ofPayload_of_isFaithful hv (hfaithful P hP)
      rw [Property.ofPayload, hb] at hsome
      rw [get_ofDocument hs hr' hP hsome]
      exact hagrees
  · rcases hread P hP with ⟨-, hnone⟩ | ⟨v, hv, -⟩
    · exact get_ofDocument hs hr' hP hnone
    · exact absurd (P.type.isPresent_of_toField hv) habsent

/-- A morning with half a second. -/
def morning : Moment :=
  ⟨2020, 5, 17, 10, 30, 15, 500000000, by decide, by decide, by decide, by decide, by decide⟩

/-- A venue that opens in the middle of a second and of which little else is known. -/
def corner : Venue :=
  { Venue.blank with
    code := ⟨"v1"⟩
    title := "Corner"
    rank := -3
    rating := ⟨0x40200000⟩
    opened := some morning
    home := athens
    tags := ⟨["quiet", "late"]⟩ }

theorem isReadable_athens : athens.IsReadable :=
  ⟨⟨Double.ofFloat athens.latitude, by rfl, by rfl⟩,
    ⟨Double.ofFloat athens.longitude, by rfl, by rfl⟩⟩

theorem isFaithful_corner :
    ∀ P ∈ Venue.description.properties, P.type.IsFaithful (P.get corner) := by
  have hopened : (PropertyType.option .moment).IsFaithful corner.opened := by
    intro b hb
    obtain rfl : morning = b := Option.some.inj hb
    show morning.HasPlainYear
    decide
  have htags : (PropertyType.structured (List String)).IsFaithful corner.tags := by
    intro t ht
    have hwrite : JsonData.write? corner.tags.value = some "[\"quiet\",\"late\"]" := by
      decide +kernel
    obtain rfl := Option.some.inj (hwrite.symm.trans ht)
    decide +kernel
  simp only [properties, Venue.description, Member.property?, List.filterMap_cons,
    List.filterMap_nil, List.forall_mem_cons]
  exact ⟨trivial, trivial, trivial, trivial, trivial, trivial, hopened, nofun, isReadable_athens,
    htags, nofun, nofun, nofun, nofun⟩

/-- The venue is found again, its opening at the beginning of the second. -/
theorem ofDocument_toDocument_corner :
    ∃ d r', Venue.schema.toDocument corner none = .ok d ∧
      Venue.schema.ofDocument Venue.blank d = .ok r' ∧ r'.title = "Corner" ∧
      r'.opened = some morning.truncate ∧ r'.note = none := by
  obtain ⟨r', hr', hpresent, habsent, -⟩ := ofDocument_toDocument Venue.build_description
    Venue.nodup_storeFields (.inl rfl) (rfl : Venue.schema.toDocument corner none = .ok _)
    isFaithful_corner
  simp only [properties, Venue.description, Member.property?, List.filterMap_cons,
    List.filterMap_nil, List.forall_mem_cons] at hpresent habsent
  obtain ⟨-, htitle, -, -, -, -, hopened, -⟩ := hpresent
  obtain ⟨-, -, -, -, -, -, -, -, -, -, hnote, -⟩ := habsent
  refine ⟨_, r', rfl, hr', htitle trivial, ?_, hnote fun ⟨_, h, _⟩ => nomatch h⟩
  have hrel : Option.Rel PropertyType.moment.Agrees (some morning) r'.opened :=
    hopened ⟨morning, rfl, trivial⟩
  obtain ⟨m, hm, hagrees⟩ : ∃ m, r'.opened = some m ∧ PropertyType.moment.Agrees morning m := by
    cases h : r'.opened with
    | none => rw [h] at hrel; exact nomatch hrel
    | some m =>
      rw [h] at hrel
      cases hrel with
      | some hagrees => exact ⟨m, rfl, hagrees⟩
  rw [hm, show m = morning.truncate from hagrees]

/-- **Exactly readable records are read from their documents.** A record is readable if its dates
have years of four digits and the texts of its structured values are read as values of their
types. -/
theorem exists_ofDocument_toDocument_iff (hs : Schema.build R.recordType = .ok s)
    (hnodup : (s.storeFields.map StoreField.name).Nodup) {r : ρ} {implicit : Option RecordId}
    (himplicit : s.Admits implicit) {d : Document} (hd : s.toDocument r implicit = .ok d) :
    (∃ r', s.ofDocument R.blank d = .ok r') ↔
      ∀ P ∈ R.properties, P.type.IsReadable (P.get r) := by
  rw [exists_ofDocument_iff hs]
  refine forall₂_congr fun P hP => ?_
  rcases Property.read?_toDocument hnodup himplicit hd (column_mem_of_build hs hP) with
    ⟨hnone, hread⟩ | ⟨v, hv, hread⟩
  · rw [hread]
    exact ⟨fun _ => P.type.isReadable_of_not_isPresent (P.type.not_isPresent_of_toField hnone),
      fun _ => ⟨none, rfl⟩⟩
  · rw [hread, ← P.type.exists_ofPayload_iff hv, Property.ofPayload]
    cases P.type.ofPayload v.payload <;> simp

/-- A shop that opens in the first year of five digits. -/
def futureShop : Shop :=
  { Shop.blank with
    id := ⟨"a"⟩
    opened := { Moment.epoch with year := 10000, year_mem := by decide, day_mem := by decide } }

/-- The document of the shop is no record. -/
theorem exists_ofDocument_futureShop_iff :
    ∃ d, Shop.schema.toDocument futureShop none = .ok d ∧
      ¬ ∃ r', Shop.schema.ofDocument Shop.blank d = .ok r' := by
  refine ⟨_, rfl, fun hread => ?_⟩
  have h := (exists_ofDocument_toDocument_iff Shop.build_description Shop.nodup_storeFields
    (.inl rfl) (rfl : Shop.schema.toDocument futureShop none = .ok _)).mp hread
  simp only [properties, Shop.description, Member.property?, List.filterMap_cons,
    List.filterMap_nil, List.forall_mem_cons] at h
  obtain ⟨-, -, -, -, -, hopened, -⟩ := h
  exact absurd (show futureShop.opened.HasPlainYear from hopened) (by decide)

/-- What is reported is the text of the date. -/
theorem ofDocument_futureShop :
    ∃ d, Shop.schema.toDocument futureShop none = .ok d ∧
      Shop.schema.ofDocument Shop.blank d =
        .error (.inField "opened" (.invalidDate "+100000101000000")) :=
  ⟨_, rfl, rfl⟩

end RecordDescription

end Catalog
