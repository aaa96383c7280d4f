import Catalog.Paging
import Mathlib.Data.List.Basic

/-!
# The pages of a list

The words in which positions are kept are wide enough for all positions of a list, so the pages cut
it into pieces of one size, the last of which may be shorter. One after the other they are the list.

## Main results

* `paginate_fst_eq`: a page is a piece of the list
* `flatMap_paginate`: the pages together are the list
* `paginate_ne_nil_iff`: just those pages show anything
-/

namespace Catalog

variable {α : Type} {items : List α} {size : Nat}

/-- The positions of a page do not outgrow a word. -/
theorem pageWindow_eq {total : Nat} (htotal : total ≤ wordMax) (n size : Nat) :
    pageWindow total (n + 1) size = (min (n * size) total, min ((n + 1) * size) total) := by
  have hpage : (max ((n : Int) + 1) 1).toNat - 1 = n := by omega
  have hnext : (n + 1) * size = n * size + size := by rw [Nat.add_mul, Nat.one_mul]
  simp only [pageWindow, hpage, saturatingMul, saturatingAdd, Prod.mk.injEq, hnext]
  omega

/-- **A page is a piece of the list.** -/
theorem paginate_fst_eq (hitems : items.length ≤ wordMax) (n size : Nat) :
    (paginate items (n + 1) size).1 = (items.drop (n * size)).take size := by
  have hnext : (n + 1) * size = n * size + size := by rw [Nat.add_mul, Nat.one_mul]
  simp only [paginate, pageWindow_eq hitems]
  rw [List.drop_take]
  rcases Nat.le_total (n * size) items.length with hle | hle
  · rw [Nat.min_eq_left hle, List.take_eq_take_iff, List.length_drop]
    omega
  · rw [Nat.min_eq_right hle, List.drop_length, List.drop_of_length_le hle, List.take_nil,
      List.take_nil]

theorem mem_of_mem_paginate {a : α} {page : Int} (h : a ∈ (paginate items page size).1) :
    a ∈ items :=
  List.mem_of_mem_take (List.mem_of_mem_drop h)

/-- Pages from the first on are the beginning of the list. -/
theorem flatMap_take_drop (items : List α) (size k : Nat) :
    (List.range k).flatMap (fun n => (items.drop (n * size)).take size) =
      items.take (k * size) := by
  induction k with
  | zero => rw [List.range_zero, List.flatMap_nil, Nat.zero_mul, List.take_zero]
  | succ k ih =>
    rw [List.range_succ, List.flatMap_append, ih, List.flatMap_singleton, Nat.add_mul, Nat.one_mul,
      List.take_add]

/-- There are enough pages for all items. -/
theorem le_pageCount_mul (total : Nat) (hsize : 0 < size) : total ≤ pageCount total size * size := by
  rw [pageCount, if_neg (Nat.ne_of_gt hsize)]
  have hdiv := Nat.div_add_mod (total + size - 1) size
  have hmod := Nat.mod_lt (total + size - 1) hsize
  rw [Nat.mul_comm] at hdiv
  omega

/-- **The pages of a list, one after the other, are the list.** -/
theorem flatMap_paginate (hitems : items.length ≤ wordMax) (hsize : 0 < size) :
    (List.range (pageCount items.length size)).flatMap
      (fun (n : Nat) => (paginate items (n + 1) size).1) = items := by
  have hpages : (fun n : Nat => (paginate items (n + 1) size).1) =
      fun n => (items.drop (n * size)).take size :=
    funext fun n => paginate_fst_eq hitems n size
  rw [hpages, flatMap_take_drop]
  exact List.take_of_length_le (le_pageCount_mul _ hsize)

/-- A page number below one means the first page. -/
theorem paginate_of_le_one (items : List α) {page : Int} (hpage : page ≤ 1) (size : Nat) :
    paginate items page size = paginate items 1 size := by
  rw [paginate, paginate, pageWindow, pageWindow, Int.max_eq_right hpage, Int.max_self]

theorem lt_pageCount_iff {total n : Nat} (hsize : 0 < size) :
    n < pageCount total size ↔ n * size < total := by
  rw [pageCount, if_neg (Nat.ne_of_gt hsize), Nat.lt_div_iff_mul_lt hsize]
  omega

/-- **Just the pages that are counted show anything.** -/
theorem paginate_ne_nil_iff (hitems : items.length ≤ wordMax) (hsize : 0 < size) (n : Nat) :
    (paginate items (n + 1) size).1 ≠ [] ↔ n < pageCount items.length size := by
  rw [paginate_fst_eq hitems, lt_pageCount_iff hsize, Ne, List.take_eq_nil_iff,
    List.drop_eq_nil_iff]
  omega

end Catalog
