import Catalog.StableSort
import Mathlib.Data.List.Sort

/-!
# What a sorted list is

A list is a stable sort of another if it has the same elements, none of them behind one that it
precedes, and if whatever stood in order before still stands so. There is one such list only, and
inserting the elements one by one gives it, provided that the comparison is a total preorder on the
elements at hand.

## Main definitions

* `IsStableSort`: a list is another one in order

## Main results

* `IsStableSort.unique`: there is one way only to put a list in order
* `isStableSort_iff`: inserting the elements one by one is that way
-/

namespace Catalog

variable {α : Type}

/-- A list is another one in order, where what the order does not tell apart is as it was. -/
structure IsStableSort (before : α → α → Prop) (l sorted : List α) : Prop where
  perm : sorted.Perm l
  pairwise : sorted.Pairwise fun a b => ¬ before b a
  /-- What stands in order stays so. -/
  sublist : ∀ c : List α, c.Sublist l → (c.Pairwise fun a b => ¬ before b a) → c.Sublist sorted

/-- An order does not tell two elements apart. -/
def Tied (before : α → α → Prop) (a b : α) : Prop := ¬ before a b ∧ ¬ before b a

namespace IsStableSort

variable {before before' : α → α → Prop} {l s s' : List α}

/-- Only the elements of the list have to be in order. -/
theorem congr (h : IsStableSort before l s)
    (hbefore : ∀ a ∈ l, ∀ b ∈ l, before a b ↔ before' a b) : IsStableSort before' l s := by
  have hpairwise {c : List α} (hc : ∀ a ∈ c, a ∈ l) :
      (c.Pairwise fun a b => ¬ before b a) ↔ c.Pairwise fun a b => ¬ before' b a :=
    List.Pairwise.iff_of_mem fun ha hb => not_congr (hbefore _ (hc _ hb) _ (hc _ ha))
  refine ⟨h.perm, (hpairwise fun a => h.perm.mem_iff.mp).mp h.pairwise, fun c hc hsorted => ?_⟩
  exact h.sublist c hc ((hpairwise fun a ha => hc.subset ha).mpr hsorted)

/-- A list of which nothing precedes anything is in order as it is. -/
theorem eq_of_forall_not (h : IsStableSort before l s) (hnot : ∀ a ∈ l, ∀ b ∈ l, ¬ before a b) :
    s = l := by
  have hsorted : l.Pairwise fun a b => ¬ before b a :=
    List.pairwise_of_forall_mem_list fun a ha b hb => hnot b hb a ha
  exact ((h.sublist l (.refl l) hsorted).eq_of_length h.perm.length_eq.symm).symm

open scoped Classical in
/-- What is not told apart from an element is as it was. -/
theorem filter_tied (h : IsStableSort before l s)
    (htrans : ∀ a b c, ¬ before b a → ¬ before c b → ¬ before c a) (a : α) :
    s.filter (Tied before a ·) = l.filter (Tied before a ·) := by
  have htied : (l.filter (Tied before a ·)).Pairwise fun b c => ¬ before c b := by
    refine List.pairwise_of_forall_mem_list fun b hb c hc => ?_
    have hb : Tied before a b := of_decide_eq_true (List.mem_filter.mp hb).2
    have hc : Tied before a c := of_decide_eq_true (List.mem_filter.mp hc).2
    exact htrans b a c hb.1 hc.2
  have hsublist := (h.sublist _ List.filter_sublist htied).filter (Tied before a ·)
  rw [List.filter_filter] at hsublist
  simp only [Bool.and_self] at hsublist
  exact (hsublist.eq_of_length (h.perm.filter _).length_eq.symm).symm

open scoped Classical in
/-- Lists in order that have the same elements are equal if they have what is not told apart in the
same order. -/
theorem eq_of_filter_tied (hirrefl : ∀ a, ¬ before a a) (hperm : s.Perm s')
    (hs : s.Pairwise fun a b => ¬ before b a) (hs' : s'.Pairwise fun a b => ¬ before b a)
    (htied : ∀ a, s.filter (Tied before a ·) = s'.filter (Tied before a ·)) : s = s' := by
  induction s generalizing s' with
  | nil => exact hperm.nil_eq
  | cons a s ih =>
    cases s' with
    | nil => exact absurd hperm.symm.nil_eq (List.cons_ne_nil a s).symm
    | cons b s' =>
      obtain ⟨ha, hrest⟩ := List.pairwise_cons.mp hs
      obtain ⟨hb, hrest'⟩ := List.pairwise_cons.mp hs'
      -- each of the two heads precedes nothing that comes with the other
      have hab : Tied before a b := by
        refine ⟨?_, ?_⟩
        · rcases List.mem_cons.mp (hperm.mem_iff.mp List.mem_cons_self) with rfl | hmem
          · exact hirrefl a
          · exact hb a hmem
        · rcases List.mem_cons.mp (hperm.mem_iff.mpr List.mem_cons_self) with rfl | hmem
          · exact hirrefl b
          · exact ha b hmem
      have haa : Tied before a a := ⟨hirrefl a, hirrefl a⟩
      have hheads := htied a
      rw [List.filter_cons_of_pos (by simpa using haa),
        List.filter_cons_of_pos (by simpa using hab)] at hheads
      obtain rfl : a = b := (List.cons.inj hheads).1
      refine congrArg (a :: ·) (ih hperm.cons_inv hrest hrest' fun c => ?_)
      by_cases hca : Tied before c a
      · have := htied c
        rw [List.filter_cons_of_pos (by simpa using hca),
          List.filter_cons_of_pos (by simpa using hca)] at this
        exact (List.cons.inj this).2
      · have := htied c
        rwa [List.filter_cons_of_neg (by simpa using hca),
          List.filter_cons_of_neg (by simpa using hca)] at this

/-- **There is one way only to put a list in order.** -/
theorem unique (h : IsStableSort before l s) (h' : IsStableSort before l s')
    (hirrefl : ∀ a, ¬ before a a)
    (htrans : ∀ a b c, ¬ before b a → ¬ before c b → ¬ before c a) : s = s' :=
  eq_of_filter_tied hirrefl (h.perm.trans h'.perm.symm) h.pairwise h'.pairwise fun a =>
    (h.filter_tied htrans a).trans (h'.filter_tied htrans a).symm

end IsStableSort

/-! ### Sorting by insertion -/

variable {le le' : α → α → Bool} {l : List α}

theorem insertSorted_eq_orderedInsert (le : α → α → Bool) (a : α) (l : List α) :
    insertSorted le a l = l.orderedInsert (le · ·) a := by
  induction l with
  | nil => rfl
  | cons b l ih => rw [insertSorted, ih, List.orderedInsert_cons]

theorem stableSort_eq_insertionSort (le : α → α → Bool) (l : List α) :
    stableSort le l = l.insertionSort (le · ·) := by
  rw [stableSort, List.insertionSort]
  congr 1
  funext a l
  exact insertSorted_eq_orderedInsert le a l

theorem stableSort_cons (le : α → α → Bool) (a : α) (l : List α) :
    stableSort le (a :: l) = insertSorted le a (stableSort le l) := rfl

theorem insertSorted_congr {a : α} (h : ∀ b ∈ l, le a b = le' a b) :
    insertSorted le a l = insertSorted le' a l := by
  induction l with
  | nil => rfl
  | cons b l ih =>
    obtain ⟨hb, hl⟩ := List.forall_mem_cons.mp h
    rw [insertSorted, insertSorted, hb, ih hl]

/-- Sorting compares elements of the list only. -/
theorem stableSort_congr (h : ∀ a ∈ l, ∀ b ∈ l, le a b = le' a b) :
    stableSort le l = stableSort le' l := by
  induction l with
  | nil => rfl
  | cons a l ih =>
    have hrest : stableSort le l = stableSort le' l := ih fun b hb c hc =>
      h b (List.mem_cons_of_mem _ hb) c (List.mem_cons_of_mem _ hc)
    rw [stableSort_cons, stableSort_cons, hrest]
    refine insertSorted_congr fun b hb => ?_
    exact h a List.mem_cons_self b (List.mem_cons_of_mem _ (mem_stableSort.mp hb))

/-- A list none of whose elements has to stand behind another one is in order as it is. -/
theorem stableSort_of_forall (h : ∀ a ∈ l, ∀ b ∈ l, le a b = true) : stableSort le l = l := by
  induction l with
  | nil => rfl
  | cons a l ih =>
    have hrest : stableSort le l = l := ih fun b hb c hc =>
      h b (List.mem_cons_of_mem _ hb) c (List.mem_cons_of_mem _ hc)
    rw [stableSort_cons, hrest]
    cases l with
    | nil => rfl
    | cons b l =>
      rw [insertSorted, if_pos (h a List.mem_cons_self b (List.mem_cons_of_mem _ List.mem_cons_self))]

variable {cmp : α → α → Ordering} [Std.TransCmp cmp]

theorem not_lt_iff_isLE (a b : α) : ¬ cmp b a = .lt ↔ (cmp a b).isLE = true := by
  rw [← Std.OrientedCmp.gt_iff_lt, Ordering.isLE_iff_ne_gt]

theorem isStableSort_stableSort (cmp : α → α → Ordering) [Std.TransCmp cmp] (l : List α) :
    IsStableSort (cmp · · = .lt) l (stableSort (cmp · · != .gt) l) := by
  let le (a b : α) : Prop := (cmp a b != .gt) = true
  have hle (a b : α) : le a b ↔ (cmp a b).isLE = true :=
    bne_iff_ne.trans Ordering.ne_gt_iff_isLE
  have : Std.Total le := ⟨fun a b => by
    have hswap : cmp b a = (cmp a b).swap := Std.OrientedCmp.eq_swap
    rw [hle, hle, hswap]
    cases cmp a b <;> decide⟩
  have : IsTrans α le := ⟨fun a b c hab hbc =>
    (hle a c).mpr (Std.TransCmp.isLE_trans ((hle a b).mp hab) ((hle b c).mp hbc))⟩
  have hnot : (fun a b : α => ¬ cmp b a = .lt) = le :=
    funext₂ fun a b => propext ((not_lt_iff_isLE a b).trans (hle a b).symm)
  rw [stableSort_eq_insertionSort]
  refine ⟨List.perm_insertionSort _ l, ?_, fun c hc hsorted => ?_⟩
  · rw [hnot]
    exact List.pairwise_insertionSort _ l
  · rw [hnot] at hsorted
    exact List.sublist_insertionSort hsorted hc

/-- **Inserting the elements one by one** puts a list in order, and there is no other way to, if the
comparison is a total preorder. -/
theorem isStableSort_iff {cmp : α → α → Ordering} [Std.TransCmp cmp] {l s : List α} :
    IsStableSort (cmp · · = .lt) l s ↔ s = stableSort (cmp · · != .gt) l := by
  constructor
  · intro h
    refine h.unique (isStableSort_stableSort cmp l) (fun a => ?_) fun a b c hba hcb => ?_
    · have hself : cmp a a = .eq := Std.ReflCmp.compare_self
      rw [hself]
      exact nofun
    · rw [not_lt_iff_isLE] at hba hcb ⊢
      exact Std.TransCmp.isLE_trans hba hcb
  · rintro rfl
    exact isStableSort_stableSort cmp l

end Catalog
