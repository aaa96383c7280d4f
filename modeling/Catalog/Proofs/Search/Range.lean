import Catalog.Proofs.Clause.Combination
import Catalog.Proofs.Clause.Range
import Catalog.Proofs.Search.Chronology

/-!
# What a range clause finds

The entry of a record has one term for a number or a date, and a range clause finds the record if
both ends of the range admit the term. So it finds the records whose value stands between the ends,
apart from the ends that stray from it.

## Main definitions

* `PropertyType.quantity?`, `Property.quantity?`: the number or the date that a record has

## Main results

* `PropertyType.toField_of_isRanged`: what is written of it
* `Store.IsBuiltFor.mem_ranking_range_iff`: the records that a range clause finds
* `Searcher.not_found_leapShop`: a range that does not find its own lower end
-/

namespace Catalog

variable {σ ρ : Type}

/-! ### The values of records -/

/-- The number or the date that a value of the type has. A number of single precision is taken in
double precision, where nothing of it is lost. -/
def PropertyType.quantity? : {α : Type} → PropertyType α → α → Option Quantity
  | _, int8 => fun n => some (.integer n.toInt)
  | _, int16 => fun n => some (.integer n.toInt)
  | _, int32 => fun n => some (.integer n.toInt)
  | _, int64 => fun n => some (.integer n.toInt)
  | _, uint8 => fun n => some (.integer n.toNat)
  | _, uint16 => fun n => some (.integer n.toNat)
  | _, uint32 => fun n => some (.integer n.toNat)
  | _, uint64 => fun n => some (.integer n.toNat)
  | _, double => fun x => some (.float x)
  | _, single => fun x => some (.float x.widen)
  | _, moment => fun m => some (.date m)
  | _, option t => fun a => a.bind t.quantity?
  | _, string | _, recordId | _, geoPoint | _, structured _ => fun _ => none

/-- An integer of at most 64 bits is kept as it is. -/
theorem Quantity.IsKept.ofInt {n : ℤ} (hleast : -2 ^ 63 ≤ n) (hgreatest : n < 2 ^ 63) :
    (integer n).IsKept (.signed (Int64.ofInt n)) := by
  have hkept : (Int64.ofInt n).toInt = n := Int64.toInt_ofInt_of_le hleast hgreatest
  rw [← hkept, Int64.ofInt_toInt]
  exact .signed _

/-- **What is written of a number or a date** is a term of it, and nothing if it is absent. -/
theorem PropertyType.toField_of_isRanged {α : Type} {t : PropertyType α}
    (ht : t.kind.isRanged = true) (a : α) :
    (t.quantity? a = none ∧ t.toField a = .ok none) ∨
      ∃ v value, t.quantity? a = some v ∧ t.toField a = .ok (some value) ∧
        v.IsKept value.payload := by
  induction t with
  | option t ih =>
    cases a with
    | none => exact .inl ⟨rfl, rfl⟩
    | some a => exact ih ht a
  | int8 | int16 | int32 | int64 =>
    have hleast := a.le_toInt
    have hgreatest := a.toInt_lt
    exact .inr ⟨_, _, rfl, rfl, .ofInt (by omega) (by omega)⟩
  | uint8 | uint16 | uint32 =>
    have hgreatest := a.toNat_lt
    exact .inr ⟨_, _, rfl, rfl, .ofInt (by omega) (by omega)⟩
  | uint64 => exact .inr ⟨_, _, rfl, rfl, .unsigned a⟩
  | double => exact .inr ⟨_, _, rfl, rfl, .double a⟩
  | single => exact .inr ⟨_, _, rfl, rfl, .double a.widen⟩
  | moment => exact .inr ⟨_, _, rfl, rfl, .text a⟩
  | string | recordId | geoPoint | structured => cases ht

/-- The number or the date that a record has for a property. -/
def Property.quantity? (P : Property ρ) (r : ρ) : Option Quantity :=
  P.type.quantity? (P.get r)

theorem Quantity.IsKept.fitsTerm {v : Quantity} {p : Payload} (h : v.IsKept p) : p.FitsTerm := by
  cases h with
  | text m =>
    rintro t ⟨⟩
    exact m.truncate.utf8ByteSize_stamp_le.trans (by decide)
  | _ => rintro t ⟨⟩

/-- The terms of the entry of a record in the field of a number or a date. -/
theorem Store.IsBuiltFor.terms_of_isRanged {s : Store ρ} {R : RecordDescription ρ}
    (h : s.IsBuiltFor R) {P : Property ρ} (hP : P ∈ R.properties)
    (hranged : P.type.kind.isRanged = true) {r : ρ} {e : Entry} (he : s.IsEntryOf r e) :
    (P.quantity? r = none ∧ e.terms P.binding.rawField = []) ∨
      ∃ v p, P.quantity? r = some v ∧ e.terms P.binding.rawField = [p] ∧ v.IsKept p ∧
        p.type = P.binding.kind.storeType := by
  rcases PropertyType.toField_of_isRanged hranged (P.get r) with
    ⟨hnone, hwritten⟩ | ⟨v, value, hv, hwritten, hkept⟩
  · exact .inl ⟨hnone, h.terms_field hP he hwritten fun _ hvalue =>
      absurd hvalue (Option.not_mem_none _)⟩
  · have htype : value.payload.type = P.binding.kind.storeType := by
      rw [P.binding_kind, ← P.type.kind_of_toField hwritten]
      exact FieldKind.type_of_encode value.encode_kind
    have hterms := h.terms_field hP he hwritten fun _ hvalue =>
      Option.some.inj hvalue ▸ hkept.fitsTerm
    exact .inr ⟨v, _, hv, hterms, hkept, htype⟩

/-! ### Range clauses -/

/-- A range clause that is compiled asks for the range in the field of its property. -/
theorem SearchScope.exists_of_build_range {scope : SearchScope} {b : Binding} {c : Clause}
    (hb : scope.binding c.property = .ok b) {bounds : RangeBounds} (hkind : c.kind = .range bounds)
    {d : QueryDescriptor} (hbuild : scope.build [{ c with occur := .must }] = .ok d) :
    ∃ q, b.rangeQuery bounds = .ok q ∧ d = ⟨some (.allOf [q.boosted c.boost]), none⟩ := by
  have harea : c.area? = none := by rw [Clause.area?, hkind]
  obtain ⟨parts, hparts, -, -⟩ := exists_of_build hbuild
  rw [propertyClauses_cons_of_none (c := { c with occur := .must }) harea] at hparts
  obtain ⟨part, -, hpart, -, -⟩ := mapM_cons_ok hparts
  obtain ⟨q', hclause, -⟩ := exists_of_partOf hpart
  change scope.propertyQuery c = .ok q' at hclause
  rw [build_alone harea hclause, Except.ok.injEq] at hbuild
  rw [propertyQuery, hb, hkind] at hclause
  cases hq : b.rangeQuery bounds with
  | error e =>
    simp only [bind, Except.bind, clauseQuery, hq] at hclause
    cases hclause
  | ok q =>
    simp only [bind, Except.bind, clauseQuery, hq] at hclause
    cases hclause
    exact ⟨q, rfl, hbuild.symm⟩

/-- **The records that a range clause finds.** After any calls on a new index a range clause that is
compiled, which asks for a number or a date, finds the document of a record if the document is there
and the record has a value that both ends of the range admit. An end admits a value if the value is
not beyond it, unless the end strays from the value. -/
theorem Store.IsBuiltFor.mem_ranking_range_iff {s : Store ρ} {R : RecordDescription ρ}
    (h : s.IsBuiltFor R) {P : Property ρ} (hP : P ∈ R.properties)
    (hname : s.scope.binding P.name = .ok P.binding) {c : Clause} (hproperty : c.property = P.name)
    {bounds : RangeBounds} (hkind : c.kind = .range bounds) {d : QueryDescriptor}
    (hbuild : s.scope.build [{ c with occur := .must }] = .ok d)
    (g : IdGenerator σ) (ids : σ) (calls : List (Call ρ)) :
    let index := (s.newWriter.runCalls s g ids calls).1.index
    P.type.kind.isRanged = true ∧ ∃ q, d = ⟨some q, none⟩ ∧
      ∀ (r : ρ) (implicit : Option RecordId) (doc : Document),
        s.schema.Admits implicit → s.schema.toDocument r implicit = .ok doc →
        (P.quantity? r = none → doc ∉ index.snapshot.ranking q) ∧
        ∀ v, P.quantity? r = some v → ¬ v.IsNan →
          (doc ∈ index.snapshot.ranking q ↔ doc ∈ liveDocuments index.slots ∧
            (bounds.lower.AtMost v ↔ ¬ bounds.lower.StraysBelow v) ∧
            (v.AtMost bounds.upper ↔ ¬ v.StraysAbove bounds.upper)) := by
  intro index
  obtain ⟨q, hq, rfl⟩ := SearchScope.exists_of_build_range (by rw [hproperty, hname]) hkind hbuild
  have hranged := (Binding.exists_of_rangeQuery hq).1
  rw [P.binding_kind] at hranged
  refine ⟨hranged, _, rfl, fun r implicit doc himplicit hdoc => ?_⟩
  have hslots := s.isEntryOf_of_mem_runCalls g ids calls himplicit hdoc
  have haccepts (among : List Entry) (e : Entry) :
      (Query.allOf [q.boosted c.boost]).accepts among e = q.accepts among e := by
    rw [Query.accepts_allOf_singleton, Query.accepts_boosted]
  constructor
  · intro hnone hmem
    refine ((Index.mem_ranking_iff_of_accepts fun slot hslot hdocument among => ?_).mp hmem).2
    rcases h.terms_of_isRanged hP hranged (hslots slot hslot hdocument) with
      ⟨-, hterms⟩ | ⟨v, p, hv, -⟩
    · rw [haccepts, Binding.accepts_rangeQuery_of_nil hq hterms]
      exact iff_of_false Bool.false_ne_true id
    · cases hnone.symm.trans hv
  · intro v hv hnan
    refine Index.mem_ranking_iff_of_accepts fun slot hslot hdocument among => ?_
    rw [haccepts]
    rcases h.terms_of_isRanged hP hranged (hslots slot hslot hdocument) with
      ⟨hnone, -⟩ | ⟨v', p, hv', hterms, hkept, htype⟩
    · cases hnone.symm.trans hv
    · obtain rfl := Option.some.inj (hv'.symm.trans hv)
      exact Binding.accepts_rangeQuery_iff hq hterms hkept htype hnan among

/-! ### Shops -/

/-- A shop is found by the day on which it was opened. -/
theorem Store.IsMadeFor.mem_ranking_range_iff_openedShop :
    let r := Searcher.shopSince "a" openingDay
    let index := (shops.newWriter.runCalls shops (.numbered "s") 0
      [.operation (.save r)]).1.index
    ∃ doc q, shops.schema.toDocument r none = .ok doc ∧
      shops.scope.build
        [{ property := "opened", kind := .range (.date Searcher.leapSecond openingDay) }] =
          .ok ⟨some q, none⟩ ∧
      doc ∈ index.snapshot.ranking q := by
  intro r index
  obtain ⟨doc, hdoc, hlive⟩ := exists_mem_liveDocuments_save_shop (r := r) (by rfl) 0
  obtain ⟨-, q, hq, hfinds⟩ := isMadeFor_shops.toIsBuiltFor.mem_ranking_range_iff
    (P := Searcher.shopOpened) (List.get_mem _ _) rfl
    (c := { property := "opened", kind := .range (.date Searcher.leapSecond openingDay) }) rfl rfl
    rfl (.numbered "s") 0 [.operation (.save r)]
  refine ⟨doc, q, hdoc, congrArg Except.ok hq, ?_⟩
  rw [(hfinds r none doc (.inl rfl) hdoc).2 (.date openingDay) rfl id]
  have hfrom : Searcher.leapSecond.AtMost openingDay := by decide
  have hto : openingDay.AtMost openingDay := by decide
  have hleap : ¬ openingDay.IsLeap := by decide
  exact ⟨hlive, iff_of_true hfrom (Quantity.not_straysBelow_date (by decide) (by decide) hleap),
    iff_of_true hto (Quantity.not_straysAbove_date (by decide) (by decide) hleap)⟩

namespace Searcher

/-- The second behind the leap second. -/
def newYear : Moment :=
  (Moment.ofParts? 2017 1 1 0 0 0 0).getD .epoch

/-- **A range that does not find its own lower end.** A shop that was opened within a leap second was
not opened before it, and is not found among those that were opened from it on. -/
theorem not_found_leapShop :
    let x := ofShops [shopSince "a" leapSecond]
    leapSecond.AtMost leapSecond ∧ leapSecond.AtMost newYear ∧
      (x.allPaged 1 20 []).toOption.map (·.hits.map (·.record.id.text)) = some ["a"] ∧
      (x.search [{ property := "opened", kind := .range (.date leapSecond newYear) }] 1 20
        []).toOption.map (·.hits.map (·.record.id.text)) = some [] := by
  decide +kernel

end Searcher

end Catalog
