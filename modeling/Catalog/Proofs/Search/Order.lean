import Catalog.Proofs.Decimal.Number
import Catalog.Proofs.StableSort
import Catalog.Search.Ranking

/-!
# The order that a search asks for

A search that sorts compares candidates key by key. The values that it reads for one key are all of
the type of the key, and values of one type are in a linear order; so with what is missing put last
each key gives a total preorder, and so do several keys one after the other. Distances are there for
all candidates of a search or for none, and only then they can be compared.

## Main definitions

* `Candidate.Precedes`: what comes before what
* `Candidate.position?`: the place of the distance among all numbers

## Main results

* `transCmp_compareKeys`: the comparison by keys is a total preorder
* `compareCandidates_eq_lt_iff`: what comes before what, by the comparison
* `isStableSort_iff_eq_sortCandidates`: candidates are put in order, and in one way only
-/

namespace Catalog

/-! ### Values of one type -/

namespace Payload

variable {a b c : Payload}

theorem compare_swap (a b : Payload) : a.compare b = (b.compare a).swap := by
  cases a <;> cases b <;> first | exact Std.OrientedOrd.eq_swap | rfl

theorem isLE_compare_trans (hab : a.type = b.type) (hbc : b.type = c.type)
    (h : (a.compare b).isLE) (h' : (b.compare c).isLE) : (a.compare c).isLE := by
  cases a <;> cases b <;> cases hab <;> cases c <;> cases hbc <;>
    exact Std.TransOrd.isLE_trans h h'

/-- Values of one type are not told apart only if they are the same. -/
theorem compare_eq_eq_iff (h : a.type = b.type) : a.compare b = .eq ↔ a = b := by
  cases a <;> cases b <;> cases h
  · exact Std.LawfulEqOrd.compare_eq_iff_eq.trans (text.injEq _ _).to_iff.symm
  · exact Std.LawfulEqOrd.compare_eq_iff_eq.trans
      (Int64.toInt_inj.trans (signed.injEq _ _).to_iff.symm)
  · exact Std.LawfulEqOrd.compare_eq_iff_eq.trans
      (UInt64.toNat_inj.trans (unsigned.injEq _ _).to_iff.symm)
  · exact Std.LawfulEqOrd.compare_eq_iff_eq.trans
      (Double.order_injective.eq_iff.trans (double.injEq _ _).to_iff.symm)

end Payload

/-- A value that is read for a kind has its type. -/
theorem Document.type_of_stored? {d : Document} {field : String} {k : FieldKind} {p : Payload}
    (h : d.stored? field k = some p) : p.type = k.storeType := by
  obtain ⟨p', -, hread⟩ := Option.bind_eq_some_iff.mp h
  rw [FieldKind.readStored?] at hread
  split at hread
  · cases hread
    assumption
  · cases hread

/-! ### Keys -/

theorem compareValues_swap (isDescending : Bool) (a b : Option Payload) :
    compareValues isDescending a b = (compareValues isDescending b a).swap := by
  rcases a with _ | a <;> rcases b with _ | b
  · rfl
  · rfl
  · rfl
  · cases isDescending
    · exact a.compare_swap b
    · exact congrArg Ordering.swap (a.compare_swap b)

/-- Values of one type with what is missing behind them, in either direction. -/
theorem isLE_compareValues_trans {isDescending : Bool} {t : StoreType} {a b c : Option Payload}
    (ha : ∀ p, a = some p → p.type = t) (hb : ∀ p, b = some p → p.type = t)
    (hc : ∀ p, c = some p → p.type = t) (h : (compareValues isDescending a b).isLE)
    (h' : (compareValues isDescending b c).isLE) : (compareValues isDescending a c).isLE := by
  rcases c with _ | c
  · cases a <;> rfl
  rcases b with _ | b
  · cases h'
  rcases a with _ | a
  · cases h
  have hab := (ha a rfl).trans (hb b rfl).symm
  have hbc := (hb b rfl).trans (hc c rfl).symm
  cases isDescending with
  | false => exact Payload.isLE_compare_trans hab hbc h h'
  | true =>
    simp only [compareValues, if_true, ← Payload.compare_swap] at h h' ⊢
    exact Payload.isLE_compare_trans hbc.symm hab.symm h' h

theorem compareValues_eq_eq_iff {isDescending : Bool} {t : StoreType} {a b : Option Payload}
    (ha : ∀ p, a = some p → p.type = t) (hb : ∀ p, b = some p → p.type = t) :
    compareValues isDescending a b = .eq ↔ a = b := by
  rcases a with _ | a <;> rcases b with _ | b
  · exact iff_of_true rfl rfl
  · exact iff_of_false nofun nofun
  · exact iff_of_false nofun nofun
  · have htype := (ha a rfl).trans (hb b rfl).symm
    rw [Option.some.injEq, ← Payload.compare_eq_eq_iff htype]
    cases isDescending with
    | false => rfl
    | true => exact Ordering.swap_eq_eq

/-- The order of two documents by the values of one field. -/
def SortKey.compare (k : SortKey) (a b : Document) : Ordering :=
  compareValues k.isDescending (a.stored? k.field k.kind) (b.stored? k.field k.kind)

instance (k : SortKey) : Std.TransCmp k.compare where
  eq_swap := compareValues_swap _ _ _
  isLE_trans := isLE_compareValues_trans (fun _ => Document.type_of_stored?)
    (fun _ => Document.type_of_stored?) fun _ => Document.type_of_stored?

/-- **The comparison by keys is a total preorder.** -/
instance transCmp_compareKeys (keys : List SortKey) : Std.TransCmp (compareKeys keys) := by
  induction keys with
  | nil => exact { eq_swap := rfl, isLE_trans := fun _ _ => rfl }
  | cons k keys ih =>
    show Std.TransCmp (compareLex k.compare (compareKeys keys))
    infer_instance

/-! ### Candidates -/

namespace Candidate

/-- The value that a candidate has for a key. -/
def value? (c : Candidate) (k : SortKey) : Option Payload :=
  c.document.stored? k.field k.kind

/-- Where the distance of a candidate stands among all numbers. -/
def position? (c : Candidate) : Option Int :=
  c.distanceKm.map fun km => (Double.ofFloat km).order

/-- What comes before what: by the first key of which the candidates do not have the same value, and
by distance if there is none. What has no value comes last in both directions. -/
inductive Precedes : List SortKey → Candidate → Candidate → Prop where
  | ascending {k keys a b p q} : k.isDescending = false → a.value? k = some p →
      b.value? k = some q → p.compare q = .lt → Precedes (k :: keys) a b
  | descending {k keys a b p q} : k.isDescending = true → a.value? k = some p →
      b.value? k = some q → q.compare p = .lt → Precedes (k :: keys) a b
  | missing {k keys a b p} : a.value? k = some p → b.value? k = none → Precedes (k :: keys) a b
  | next {k keys a b} : a.value? k = b.value? k → Precedes keys a b → Precedes (k :: keys) a b
  | nearer {a b m n} : a.position? = some m → b.position? = some n → m < n → Precedes [] a b

end Candidate

variable {keys : List SortKey} {a b : Candidate} {cs : List Candidate}

theorem compareDistance_eq_lt_iff : compareDistance a b = .lt ↔ Candidate.Precedes [] a b := by
  rw [compareDistance]
  constructor
  · intro h
    split at h
    case h_1 km km' ha hb =>
      have hm : a.position? = some (Double.ofFloat km).order := by
        rw [Candidate.position?, ha, Option.map_some]
      have hn : b.position? = some (Double.ofFloat km').order := by
        rw [Candidate.position?, hb, Option.map_some]
      exact .nearer hm hn (compare_lt_iff_lt.mp h)
    case h_2 => cases h
  · rintro (_ | _ | _ | _ | ⟨hm, hn, hlt⟩)
    obtain ⟨km, ha, rfl⟩ := Option.map_eq_some_iff.mp hm
    obtain ⟨km', hb, rfl⟩ := Option.map_eq_some_iff.mp hn
    rw [ha, hb]
    exact compare_lt_iff_lt.mpr hlt

theorem compareCandidates_cons (k : SortKey) (keys : List SortKey) (a b : Candidate) :
    compareCandidates (k :: keys) a b =
      (k.compare a.document b.document).then (compareCandidates keys a b) :=
  Ordering.then_assoc _ _ _

/-- What a key says of two candidates by itself. -/
theorem SortKey.compare_eq_lt_iff (k : SortKey) (a b : Candidate) :
    k.compare a.document b.document = .lt ↔
      (∃ p, a.value? k = some p ∧ b.value? k = none) ∨
      ∃ p q, a.value? k = some p ∧ b.value? k = some q ∧
        (if k.isDescending then q.compare p else p.compare q) = .lt := by
  show compareValues k.isDescending (a.value? k) (b.value? k) = .lt ↔ _
  rcases a.value? k with _ | p <;> rcases b.value? k with _ | q
  · simp [compareValues]
  · simp [compareValues]
  · simp [compareValues]
  · simp [compareValues, ← Payload.compare_swap]

/-- **What comes before what**, by the comparison. -/
theorem compareCandidates_eq_lt_iff :
    compareCandidates keys a b = .lt ↔ Candidate.Precedes keys a b := by
  induction keys with
  | nil => exact compareDistance_eq_lt_iff
  | cons k keys ih =>
    have hsame : k.compare a.document b.document = .eq ↔ a.value? k = b.value? k :=
      compareValues_eq_eq_iff (fun _ => Document.type_of_stored?) fun _ => Document.type_of_stored?
    rw [compareCandidates_cons, Ordering.then_eq_lt, ih, hsame, k.compare_eq_lt_iff]
    constructor
    · rintro ((⟨p, ha, hb⟩ | ⟨p, q, ha, hb, hlt⟩) | ⟨hsame, hrest⟩)
      · exact .missing ha hb
      · split at hlt
        case isTrue hdescending => exact .descending hdescending ha hb hlt
        case isFalse hascending =>
          exact .ascending (Bool.eq_false_of_not_eq_true hascending) ha hb hlt
      · exact .next hsame hrest
    · rintro (⟨hdirection, ha, hb, hlt⟩ | ⟨hdirection, ha, hb, hlt⟩ | ⟨ha, hb⟩ | ⟨hsame, hrest⟩)
      · exact .inl (.inr ⟨_, _, ha, hb, by rwa [hdirection]⟩)
      · exact .inl (.inr ⟨_, _, ha, hb, by rwa [hdirection]⟩)
      · exact .inl (.inl ⟨_, ha, hb⟩)
      · exact .inr ⟨hsame, hrest⟩

/-- The comparison with what has no distance in front. It is a total preorder on all candidates. -/
def compareAll (keys : List SortKey) : Candidate → Candidate → Ordering :=
  compareLex (fun a b => compareKeys keys a.document b.document) (compareOn Candidate.position?)

instance (keys : List SortKey) : Std.TransCmp (compareAll keys) := by
  have : Std.TransCmp fun a b : Candidate => compareKeys keys a.document b.document :=
    { eq_swap := Std.OrientedCmp.eq_swap, isLE_trans := Std.TransCmp.isLE_trans }
  show Std.TransCmp (compareLex _ _)
  infer_instance

/-- On candidates of one search the comparison is a total preorder. -/
theorem compareCandidates_eq_compareAll (h : a.distanceKm.isSome = b.distanceKm.isSome) :
    compareCandidates keys a b = compareAll keys a b := by
  have hdistance : compareDistance a b = compareOn Candidate.position? a b := by
    rw [compareDistance, compareOn, Candidate.position?, Candidate.position?]
    cases ha : a.distanceKm with
    | none =>
      rw [ha] at h
      rw [Option.isSome_eq_false_iff.mp h.symm |> Option.isNone_iff_eq_none.mp]
      rfl
    | some km =>
      rw [ha] at h
      obtain ⟨km', hb⟩ := Option.isSome_iff_exists.mp h.symm
      rw [hb]
      rfl
  rw [compareCandidates, hdistance]
  rfl

/-- Distances are there for all of some candidates or for none. -/
def HaveDistancesAlike (cs : List Candidate) : Prop :=
  ∀ a ∈ cs, ∀ b ∈ cs, a.distanceKm.isSome = b.distanceKm.isSome

/-- **Candidates that can be compared** are put in order, and there is no other way to. -/
theorem isStableSort_iff_eq_sortCandidates {s : List Candidate} (h : HaveDistancesAlike cs) :
    IsStableSort (Candidate.Precedes keys) cs s ↔ s = sortCandidates keys cs := by
  have hsort : sortCandidates keys cs = stableSort (compareAll keys · · != .gt) cs :=
    stableSort_congr fun a ha b hb => by rw [compareCandidates_eq_compareAll (h a ha b hb)]
  have hprecedes : ∀ a ∈ cs, ∀ b ∈ cs,
      Candidate.Precedes keys a b ↔ compareAll keys a b = .lt := fun a ha b hb => by
    rw [← compareCandidates_eq_lt_iff, compareCandidates_eq_compareAll (h a ha b hb)]
  rw [hsort, ← isStableSort_iff]
  exact ⟨fun hs => hs.congr hprecedes,
    fun hs => hs.congr fun a ha b hb => (hprecedes a ha b hb).symm⟩

end Catalog
