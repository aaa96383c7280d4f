import Catalog.Proofs.Calendar.Order
import Catalog.Proofs.Search.Ordering
import Catalog.Proofs.Store.Values

/-!
# Searches in the order of time

A search that sorts by a date compares the texts that are stored, and these are in the order of
time. So its pages show records from the earliest to the latest, or from the latest to the earliest,
and those without a date behind them. But what is stored of a leap second is the second before it:
the two are not told apart, although one of them is later.

## Main definitions

* `Property.InTimeOrder`: two records in the order of a date
* `Searcher.Answers`: the pages that a searcher answers with
* `Searcher.ShowsSome`: a page of some candidates, in their order
* `Store.Keeps`: a record whose document a candidate has

## Main results

* `Candidate.inTimeOrder_of_not_precedes`: the order of candidates is the order of time
* `Searcher.inTimeOrder_of_answers`: the order of the records on a page
* `Searcher.not_inTimeOrder_leapShops`: a leap second that is shown before the second before it
-/

namespace Catalog

variable {σ ρ : Type}

/-! ### The order of a date -/

/-- Two records in the order of a date: one that has no date comes last, and of two dates the
earlier one comes first, or the later one if the order is descending. It is the date up to its
second that counts, without nanoseconds. -/
structure Property.InTimeOrder (P : Property ρ) (isDescending : Bool) (r r' : ρ) : Prop where
  missing : P.moment? r = none → P.moment? r' = none
  dates : ∀ m ∈ P.moment? r, ∀ m' ∈ P.moment? r', m.HasPlainYear → m'.HasPlainYear →
    compare m.truncate.inSecond m'.truncate.inSecond ≠ if isDescending then .lt else .gt

/-- The key of a sort by the property. -/
def Property.sortKey (P : Property ρ) (isDescending : Bool) : SortKey :=
  ⟨P.binding.rawField, P.binding.kind, isDescending⟩

namespace Candidate

variable {s : Store ρ} {R : RecordDescription ρ} (h : s.IsBuiltFor R) {P : Property ρ}
  (hP : P ∈ R.properties) (hdate : P.type.kind = .date)

include h hP hdate

/-- **The order of candidates is the order of time.** -/
theorem inTimeOrder_of_not_precedes {isDescending : Bool} {keys : List SortKey} {a b : Candidate}
    {r r' : ρ} {e e' : Entry} (he : s.IsEntryOf r e) (he' : s.IsEntryOf r' e')
    (ha : a.document = e.document) (hb : b.document = e'.document)
    (hnot : ¬ Precedes (P.sortKey isDescending :: keys) b a) :
    P.InTimeOrder isDescending r r' := by
  have hvalue : a.value? (P.sortKey isDescending) =
      (P.moment? r).map fun m => .text m.truncate.stamp := by
    rw [value?, ha]
    exact h.stored?_date hP hdate he
  have hvalue' : b.value? (P.sortKey isDescending) =
      (P.moment? r').map fun m => .text m.truncate.stamp := by
    rw [value?, hb]
    exact h.stored?_date hP hdate he'
  refine ⟨fun hnone => ?_, fun m hm m' hm' hplain hplain' => ?_⟩
  · rw [hnone] at hvalue
    cases hsome : P.moment? r' with
    | none => rfl
    | some m' =>
      rw [hsome] at hvalue'
      exact absurd (.missing hvalue' hvalue) hnot
  · rw [Option.mem_def.mp hm] at hvalue
    rw [Option.mem_def.mp hm'] at hvalue'
    have hstamp {x y : Moment} (hx : x.HasPlainYear) (hy : y.HasPlainYear) :
        (Payload.text x.truncate.stamp).compare (.text y.truncate.stamp) =
          compare x.truncate.inSecond y.truncate.inSecond :=
      Moment.compare_stamp (a := x.truncate) (b := y.truncate) hx hy
    intro hwrong
    cases isDescending with
    | false => exact hnot (.ascending rfl hvalue' hvalue
        ((hstamp hplain' hplain).trans (Std.OrientedCmp.gt_iff_lt.mp hwrong)))
    | true => exact hnot (.descending rfl hvalue' hvalue ((hstamp hplain hplain').trans hwrong))

end Candidate

/-! ### The pages of a searcher -/

/-- A record whose document a candidate has. -/
def Store.Keeps (s : Store ρ) (r : ρ) (c : Candidate) : Prop :=
  ∃ e, s.IsEntryOf r e ∧ c.document = e.document

theorem mem_ranking_of_mem_ordering {x : Snapshot} {q : Query} {spatial : Option SpatialFilter}
    {keys : List SortKey} {c : Candidate} (hc : c ∈ x.ordering q spatial keys) :
    c.document ∈ x.ranking q := by
  have hfound : c ∈ inArea spatial (x.ranking q) :=
    (Snapshot.isStableSort_iff_eq_ordering.mpr rfl).perm.mem_iff.mp hc
  rw [inArea_eq] at hfound
  obtain ⟨d, hd, rfl⟩ := List.mem_map.mp hfound
  exact List.mem_of_mem_filter hd

/-- After any calls on a new index, whatever a search finds has the document of a record. -/
theorem Store.exists_keeps_of_run (s : Store ρ) (g : IdGenerator σ) (ids : σ)
    (calls : List (Call ρ)) {q : Query} {spatial : Option SpatialFilter} {keys : List SortKey}
    {c : Candidate} (hc : c ∈
      (s.newWriter.runCalls s g ids calls).1.index.snapshot.ordering q spatial keys) :
    ∃ r, s.Keeps r c := by
  obtain ⟨segment, hsegment, slot, hslot, -, -, hdocument⟩ :=
    Index.mem_ranking_iff.mp (mem_ranking_of_mem_ordering hc)
  have hentries := Writer.forall_isEntry_of_steps (s.newWriter.steps_runCalls s g ids calls)
  obtain ⟨r, hr⟩ := hentries.committed slot (List.mem_flatten.mpr ⟨segment, hsegment, hslot⟩)
  exact ⟨r, slot.entry, hr, hdocument.symm⟩

namespace Searcher

/-- The pages that a searcher answers with, in the order of some options. -/
inductive Answers (x : Searcher ρ) (sort : List SortOption) (result : ResultPage ρ) : Prop
  | search {clauses : List Clause} {page : Int} {size : Nat}
      (h : x.search clauses page size sort = .ok result)
  | text {text : String} {properties : List String} {page : Int} {size : Nat}
      (h : x.searchText text properties page size sort = .ok result)
  | listing {page : Int} {size : Nat} (h : x.allPaged page size sort = .ok result)

variable {x : Searcher ρ} {sort : List SortOption} {result : ResultPage ρ}

/-- A page shows the records of some candidates, in their order. -/
def ShowsSome (x : Searcher ρ) (all : List Candidate) (result : ResultPage ρ) : Prop :=
  ∃ cs : List Candidate, cs.Sublist all ∧ cs.mapM x.decode = .ok result.hits

theorem showsSome_empty (x : Searcher ρ) (all : List Candidate) : x.ShowsSome all .empty :=
  ⟨[], List.nil_sublist _, rfl⟩

theorem paginate_sublist {α : Type} (items : List α) (page : Int) (size : Nat) :
    (paginate items page size).1.Sublist items :=
  (List.drop_sublist ..).trans (List.take_sublist ..)

theorem showsSome_of_resultPage {q : Query} {spatial : Option SpatialFilter} {keys : List SortKey}
    {limit : Nat} {page : Int} {size : Nat}
    (h : x.resultPage (x.snapshot.candidates q spatial keys limit) page size = .ok result) :
    x.ShowsSome (x.snapshot.ordering q spatial keys) result := by
  have hsublist := (paginate_sublist (x.snapshot.candidates q spatial keys limit) page size).trans
    (List.take_sublist limit (x.snapshot.ordering q spatial keys))
  refine ⟨_, hsublist, ?_⟩
  rw [resultPage] at h
  cases hhits : (paginate (x.snapshot.candidates q spatial keys limit) page size).1.mapM
      x.decode with
  | error e => simp only [hhits] at h; cases h
  | ok hits => simp only [hhits] at h; cases h; rfl

theorem exists_showsSome_of_search {clauses : List Clause} {page : Int} {size : Nat}
    (h : x.search clauses page size sort = .ok result) :
    ∃ d keys q, x.store.scope.build clauses = .ok d ∧ x.store.scope.sortKeys sort = .ok keys ∧
      x.ShowsSome (x.snapshot.ordering q d.spatial keys) result := by
  obtain ⟨d, hbuild, h⟩ := exists_of_bind_eq_ok h
  obtain ⟨keys, hkeys, h⟩ := exists_of_bind_eq_ok h
  cases hq : d.toQuery? with
  | none =>
    simp only [hq] at h
    cases h
    exact ⟨d, keys, .all, hbuild, hkeys, x.showsSome_empty _⟩
  | some q =>
    simp only [hq] at h
    exact ⟨d, keys, q, hbuild, hkeys, showsSome_of_resultPage h⟩

theorem exists_showsSome_of_searchText {text : String} {properties : List String} {page : Int}
    {size : Nat} (h : x.searchText text properties page size sort = .ok result) :
    ∃ keys q, x.store.scope.sortKeys sort = .ok keys ∧
      x.ShowsSome (x.snapshot.ordering q none keys) result := by
  obtain ⟨keys, hkeys, h⟩ := exists_of_bind_eq_ok h
  obtain ⟨q?, -, h⟩ := exists_of_bind_eq_ok h
  cases q? with
  | none =>
    cases h
    exact ⟨keys, .all, hkeys, x.showsSome_empty _⟩
  | some q => exact ⟨keys, q, hkeys, showsSome_of_resultPage h⟩

theorem exists_showsSome_of_allPaged {page : Int} {size : Nat}
    (h : x.allPaged page size sort = .ok result) :
    ∃ keys, x.store.scope.sortKeys sort = .ok keys ∧
      x.ShowsSome (x.snapshot.ordering .all none keys) result := by
  obtain ⟨keys, hkeys, h⟩ := exists_of_bind_eq_ok h
  obtain ⟨shown, hshown, h⟩ := exists_of_bind_eq_ok h
  cases h
  obtain ⟨cs, hsublist, hhits⟩ := showsSome_of_resultPage hshown
  exact ⟨keys, hkeys, cs, hsublist, hhits⟩

/-- **Every page of a searcher shows records in the order of a search.** -/
theorem Answers.exists_showsSome (h : x.Answers sort result) :
    ∃ keys q spatial, x.store.scope.sortKeys sort = .ok keys ∧
      x.ShowsSome (x.snapshot.ordering q spatial keys) result := by
  cases h with
  | search h =>
    obtain ⟨d, keys, q, -, hkeys, hshows⟩ := exists_showsSome_of_search h
    exact ⟨keys, q, d.spatial, hkeys, hshows⟩
  | text h =>
    obtain ⟨keys, q, hkeys, hshows⟩ := exists_showsSome_of_searchText h
    exact ⟨keys, q, none, hkeys, hshows⟩
  | listing h =>
    obtain ⟨keys, hkeys, hshows⟩ := exists_showsSome_of_allPaged h
    exact ⟨keys, .all, none, hkeys, hshows⟩

end Searcher

/-! ### Records in order -/

/-- A sort by a property has the key of the property first. -/
theorem SearchScope.exists_of_sortKeys_cons {scope : SearchScope} {P : Property ρ}
    (hname : scope.binding P.name = .ok P.binding) {isDescending : Bool} {sort : List SortOption}
    {keys : List SortKey} (h : scope.sortKeys (⟨P.name, isDescending⟩ :: sort) = .ok keys) :
    ∃ rest, keys = P.sortKey isDescending :: rest := by
  obtain ⟨key, rest, hkey, -, rfl⟩ := mapM_cons_ok h
  rw [sortKey, hname] at hkey
  cases hkey
  exact ⟨rest, rfl⟩

namespace Searcher

/-- **A search by a date shows records in the order of time.** The texts of dates are in the order of
time, byte by byte, where a leap second is second 60. But what is stored has lost its nanoseconds,
and the order of what is left is the order of time only if both dates are leap seconds or none of
them is, or if they share no second, whether as they are or as they are stored. After any calls on
a new index every page of every search that sorts by a date shows documents of records, and records
that have these documents stand in the order of what is left. -/
theorem inTimeOrder_of_answers {s : Store ρ} {R : RecordDescription ρ} (h : s.IsBuiltFor R)
    {P : Property ρ} (hP : P ∈ R.properties) (hdate : P.type.kind = .date)
    (hname : s.scope.binding P.name = .ok P.binding) (g : IdGenerator σ) (ids : σ)
    (calls : List (Call ρ)) {x : Searcher ρ} (hstore : x.store = s)
    (hsees : x.snapshot = (s.newWriter.runCalls s g ids calls).1.index.snapshot) :
    (∀ a b : Moment, a.HasPlainYear → b.HasPlainYear →
      compare (Payload.text a.stamp).bytes (Payload.text b.stamp).bytes =
        compare a.inSecond b.inSecond) ∧
    (∀ a b : Moment,
      compare a.truncate.inSecond b.truncate.inSecond = compare a.inSecond b.inSecond ↔
        (a.IsLeap ↔ b.IsLeap) ∨
          (a.truncate.inSecond ≠ b.truncate.inSecond ∧ a.inSecond ≠ b.inSecond)) ∧
    ∀ (isDescending : Bool) (sort : List SortOption) (result : ResultPage ρ),
      x.Answers (⟨P.name, isDescending⟩ :: sort) result →
        ∃ cs : List Candidate, cs.mapM x.decode = .ok result.hits ∧
          (∃ records, List.Forall₂ s.Keeps records cs) ∧
          ∀ records, List.Forall₂ s.Keeps records cs →
            records.Pairwise (P.InTimeOrder isDescending) := by
  refine ⟨fun a b ha hb => Moment.compare_bytes_stamp ha hb,
    fun a b => Moment.compare_inSecond_truncate_eq_iff, fun isDescending sort result hanswers => ?_⟩
  obtain ⟨keys, q, spatial, hkeys, cs, hsublist, hhits⟩ := hanswers.exists_showsSome
  rw [hstore] at hkeys
  obtain ⟨rest, rfl⟩ := SearchScope.exists_of_sortKeys_cons hname hkeys
  refine ⟨cs, hhits, exists_forall₂ fun c hc => ?_, fun records hrecords => ?_⟩
  · exact s.exists_keeps_of_run g ids calls (hsees ▸ hsublist.subset hc)
  · have hordered : cs.Pairwise fun a b => ¬ Candidate.Precedes (P.sortKey isDescending :: rest) b a :=
      (Snapshot.isStableSort_iff_eq_ordering.mpr rfl).pairwise.sublist hsublist
    refine pairwise_of_forall₂ hrecords hordered ?_
    rintro r c r' c' ⟨e, he, hc⟩ ⟨e', he', hc'⟩ hnot
    exact Candidate.inTimeOrder_of_not_precedes h hP hdate he he' hc hc' hnot

/-! ### Shops -/

/-- The day on which a shop was opened. -/
def shopOpened : Property Shop :=
  Shop.description.properties.get ⟨5, by decide⟩

/-- A shop of which the identity and the day are known. -/
def shopSince (text : String) (opened : Moment) : Shop :=
  { Shop.blank with id := ⟨text⟩, opened }

/-- The last second of a year that ends with a leap second, but for the leap second. -/
def secondBefore : Moment :=
  (Moment.ofParts? 2016 12 31 23 59 59 0).getD .epoch

/-- The leap second behind it. -/
def leapSecond : Moment :=
  (Moment.ofParts? 2016 12 31 23 59 59 nanosPerSecond).getD .epoch

/-- Of two shops the one that was opened first is shown first, and last if the order is
descending. -/
theorem inTimeOrder_of_answers_openedShops :
    let rs := [shopSince "a" openingDay, shopSince "b" leapSecond]
    let x := ofShops rs
    ((x.allPaged 1 20 [⟨"opened", false⟩]).toOption.map (·.hits.map (·.record.id.text)) =
      some ["b", "a"]) ∧
    ((x.allPaged 1 20 [⟨"opened", true⟩]).toOption.map (·.hits.map (·.record.id.text)) =
      some ["a", "b"]) ∧
    ∀ isDescending result, x.allPaged 1 20 [⟨"opened", isDescending⟩] = .ok result →
      ∃ cs : List Candidate, cs.mapM x.decode = .ok result.hits ∧
        ∃ records, List.Forall₂ x.store.Keeps records cs ∧
          records.Pairwise (shopOpened.InTimeOrder isDescending) := by
  intro rs x
  have hfields : x.store.IsBuiltFor Shop.description := Store.IsMadeFor.isMadeFor_shops.toIsBuiltFor
  obtain ⟨-, -, hordered⟩ := inTimeOrder_of_answers (x := x) hfields (P := shopOpened)
    (List.get_mem _ _) rfl rfl (.numbered "s") 0 [.operation (.saveBatch rs)] rfl rfl
  refine ⟨by decide +kernel, by decide +kernel, fun isDescending result hresult => ?_⟩
  obtain ⟨cs, hhits, ⟨records, hrecords⟩, hpairwise⟩ := hordered _ [] _ (.listing hresult)
  exact ⟨cs, hhits, records, hrecords, hpairwise records hrecords⟩

/-- **A leap second that is shown before the second before it.** It is later, and its text is the
greater one. But it is stored as the second before, and a list of shops from the earliest to the
latest shows the two as they were saved. -/
theorem not_inTimeOrder_leapShops :
    let x := ofShops [shopSince "a" leapSecond, shopSince "b" secondBefore]
    compare secondBefore.inSecond leapSecond.inSecond = .lt ∧
      compare (Payload.text secondBefore.stamp).bytes (Payload.text leapSecond.stamp).bytes = .lt ∧
      (x.allPaged 1 20 [⟨"opened", false⟩]).toOption.map (·.hits.map (·.record.id.text)) =
        some ["a", "b"] ∧
      (x.search [{ property := "stock", kind := .range (.int 0 0) }] 1 20
        [⟨"opened", false⟩]).toOption.map (·.hits.map (·.record.id.text)) = some ["a", "b"] := by
  decide +kernel

end Searcher

end Catalog
