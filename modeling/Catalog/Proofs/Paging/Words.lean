import Catalog.Proofs.Paging

/-!
# Pages counted in words

Positions are unsigned words and page numbers signed ones, so the arithmetic of a page could fail: a
difference can be below zero, a product can outgrow its word, and a list can only be cut between two
of its positions. Here the same steps are taken in words, each of which fails where it would. None
of them does, and what comes out is what unbounded integers give: a product that stays at the
greatest word is cut to the length of the list anyway.

## Main definitions

* `sub?`, `slice?`: the two steps that can fail
* `windowInWords?`, `pageInWords?`: what a page shows, in words

## Main results

* `pageWindow_exact`: the positions of a page in unbounded integers
* `windowInWords?_eq`, `pageInWords?_eq`: no step fails, whatever the page and its size
* `paging_exact`: the positions are exact, and the pages tile the list
-/

namespace Catalog

variable {α : Type}

/-! ### Steps in words -/

/-- The difference of two words; none where it would be below zero. -/
def sub? (a b : UInt64) : Option UInt64 := if b ≤ a then some (a - b) else none

/-- The product of two words, or the greatest word. -/
def mulOrGreatest (a b : UInt64) : UInt64 := UInt64.ofNatClamp (a.toNat * b.toNat)

/-- The sum of two words, or the greatest word. -/
def addOrGreatest (a b : UInt64) : UInt64 := UInt64.ofNatClamp (a.toNat + b.toNat)

/-- The piece of a list between two of its positions; none where these are not in order, or beyond
the list. -/
def slice? (items : List α) (start stop : Nat) : Option (List α) :=
  if start ≤ stop ∧ stop ≤ items.length then some ((items.take stop).drop start) else none

theorem toNat_ofNatClamp (n : Nat) : (UInt64.ofNatClamp n).toNat = min n wordMax := by
  rcases Nat.lt_or_ge n UInt64.size with hlt | hle
  · rw [UInt64.toNat_ofNatClamp_of_lt hlt, wordMax]
    exact (Nat.min_eq_left (Nat.le_sub_one_of_lt hlt)).symm
  · rw [UInt64.toNat_ofNatClamp_of_le hle, wordMax]
    exact (Nat.min_eq_right (Nat.le_trans (Nat.sub_le _ _) hle)).symm

@[simp] theorem toNat_mulOrGreatest (a b : UInt64) :
    (mulOrGreatest a b).toNat = saturatingMul a.toNat b.toNat :=
  toNat_ofNatClamp _

@[simp] theorem toNat_addOrGreatest (a b : UInt64) :
    (addOrGreatest a b).toNat = saturatingAdd a.toNat b.toNat :=
  toNat_ofNatClamp _

theorem toNat_min (a b : UInt64) : (min a b).toNat = min a.toNat b.toNat := by
  have hle : a ≤ b ↔ a.toNat ≤ b.toNat := UInt64.le_iff_toNat_le
  have hmin : min a b = if a ≤ b then a else b := rfl
  rw [hmin, Nat.min_def, apply_ite UInt64.toNat]
  simp only [hle]

theorem toNat_le_wordMax (a : UInt64) : a.toNat ≤ wordMax :=
  Nat.le_sub_one_of_lt a.toNat_lt

/-! ### A page in words -/

/-- The first position that a page shows and the first one after it, in words. -/
def windowInWords? (total : UInt64) (page : Int64) (size : UInt64) : Option (UInt64 × UInt64) := do
  let before ← sub? (max page 1).toUInt64 1
  let start := min (mulOrGreatest before size) total
  return (start, min (addOrGreatest start size) total)

/-- The items that a page shows and the number of all items, in words. -/
def pageInWords? (items : List α) (page : Int64) (size : UInt64) : Option (List α × UInt64) := do
  let total := UInt64.ofNat items.length
  let (start, stop) ← windowInWords? total page size
  let shown ← slice? items start.toNat stop.toNat
  return (shown, total)

/-- A page number that is at least one does not change when it loses its sign. -/
theorem toNat_max_one (page : Int64) : (max page 1).toUInt64.toNat = (max page.toInt 1).toNat := by
  have hmax : max page 1 = if page ≤ 1 then 1 else page := rfl
  have hone : (1 : Int64).toInt = 1 := by decide
  have hle : page ≤ 1 ↔ page.toInt ≤ 1 := by rw [Int64.le_iff_toInt_le, hone]
  rcases Int.lt_or_le 1 page.toInt with hgreat | hsmall
  · have hpos : (0 : Int64) ≤ page := by
      rw [Int64.le_iff_toInt_le, Int64.toInt_zero]
      omega
    rw [hmax, if_neg (fun h => absurd (hle.1 h) (Int.not_le_of_gt hgreat)),
      Int.max_eq_left (Int.le_of_lt hgreat), Int64.toNat_toUInt64_of_le hpos, Int64.toNat_toInt]
  · rw [hmax, if_pos (hle.2 hsmall), Int.max_eq_right hsmall]
    rfl

/-- **No step of a page fails in words**, and its positions are those counted without words. -/
theorem windowInWords?_eq (total : UInt64) (page : Int64) (size : UInt64) :
    (windowInWords? total page size).map (fun w => (w.1.toNat, w.2.toNat)) =
      some (pageWindow total.toNat page.toInt size.toNat) := by
  have hone : (1 : UInt64) ≤ (max page 1).toUInt64 := by
    rw [UInt64.le_iff_toNat_le, toNat_max_one, UInt64.toNat_one]
    omega
  have hbefore : ((max page 1).toUInt64 - 1).toNat = (max page.toInt 1).toNat - 1 := by
    rw [UInt64.toNat_sub_of_le _ _ hone, toNat_max_one, UInt64.toNat_one]
  simp only [windowInWords?, sub?, if_pos hone, pageWindow, Option.bind_eq_bind, Option.bind_some,
    Option.pure_def, Option.map_some, toNat_min, toNat_mulOrGreatest, toNat_addOrGreatest, hbefore]

/-! ### Exact positions -/

/-- **The positions of a page in unbounded integers**: nothing is seen of a word that is full. -/
theorem pageWindow_exact {total : Nat} (htotal : total ≤ wordMax) (page : Int) (size : Nat) :
    ((pageWindow total page size).1 : Int) = min ((max page 1 - 1) * size) total ∧
      ((pageWindow total page size).2 : Int) = min (max page 1 * size) total := by
  obtain ⟨n, hn⟩ : ∃ n : Nat, max page 1 = (n : Int) + 1 := ⟨(max page 1 - 1).toNat, by omega⟩
  have hpage : pageWindow total page size = pageWindow total (n + 1) size := by
    rw [pageWindow, pageWindow, hn, Int.max_eq_left (by omega)]
  rw [hpage, pageWindow_eq htotal, hn]
  constructor
  · rw [Int.add_sub_cancel, ← Int.natCast_mul]
    omega
  · rw [← Int.natCast_add_one, ← Int.natCast_mul]
    omega

example : pageWindow 20 (2 ^ 63 - 1) wordMax = (20, 20) := by decide

/-- The positions of a page are in order, and within the list. -/
theorem pageWindow_mono (total : Nat) (page : Int) (size : Nat) :
    (pageWindow total page size).1 ≤ (pageWindow total page size).2 ∧
      (pageWindow total page size).2 ≤ total := by
  simp only [pageWindow, saturatingMul, saturatingAdd]
  omega

/-- **A list of any length that a word counts can be cut into its pages.** -/
theorem pageInWords?_eq {items : List α} (hitems : items.length ≤ wordMax) (page : Int64)
    (size : UInt64) :
    pageInWords? items page size =
      some ((paginate items page.toInt size.toNat).1, UInt64.ofNat items.length) := by
  have htotal : (UInt64.ofNat items.length).toNat = items.length := by
    rw [UInt64.toNat_ofNat', Nat.mod_eq_of_lt]
    exact Nat.lt_of_le_sub_one (by decide) hitems
  have hwindow := windowInWords?_eq (UInt64.ofNat items.length) page size
  rw [htotal, Option.map_eq_some_iff] at hwindow
  obtain ⟨⟨start, stop⟩, hsome, heq⟩ := hwindow
  have hcut := pageWindow_mono items.length page.toInt size.toNat
  rw [← heq] at hcut
  simp only [pageInWords?, hsome, slice?, Option.bind_eq_bind, Option.bind_some, if_pos hcut,
    Option.pure_def, paginate, ← heq]

/-! ### The pages of a list -/

/-- There are no more pages than items. -/
theorem pageCount_le (total : Nat) {size : Nat} (hsize : 0 < size) :
    pageCount total size ≤ total := by
  by_contra hlt
  have hlast : total * size < total := (lt_pageCount_iff hsize).1 (Nat.lt_of_not_le hlt)
  exact absurd (Nat.le_mul_of_pos_right total hsize) (Nat.not_le_of_lt hlast)

/-- **Pages are exact, and they tile the list.** Whatever the number of items, the page and its
size, the positions of a page are those of unbounded integers, they are in order and within the
list, and no step fails when it is taken in words. As long as the items can be counted by a page
number, just the counted pages show anything, and one after the other they are the list. -/
theorem paging_exact :
    (∀ (total size : UInt64) (page : Int64),
      let window := pageWindow total.toNat page.toInt size.toNat
      (window.1 : Int) = min ((max page.toInt 1 - 1) * size.toNat) total.toNat ∧
        (window.2 : Int) = min (max page.toInt 1 * size.toNat) total.toNat ∧
        window.1 ≤ window.2 ∧ window.2 ≤ total.toNat ∧
        (windowInWords? total page size).map (fun w => (w.1.toNat, w.2.toNat)) = some window) ∧
    (∀ (items : List α) (size : UInt64) (page : Int64), items.length ≤ wordMax →
      pageInWords? items page size =
        some ((paginate items page.toInt size.toNat).1, UInt64.ofNat items.length)) ∧
    ∀ (items : List α) (size : UInt64), items.length ≤ Int64.maxValue.toNatClampNeg → 1 ≤ size →
      let count := pageCount items.length size.toNat
      count ≤ Int64.maxValue.toNatClampNeg ∧
        (∀ page : Int64, 1 ≤ page →
          ((paginate items page.toInt size.toNat).1 ≠ [] ↔ page.toInt ≤ count)) ∧
        (List.range' 1 count).flatMap (fun page : Nat => (paginate items page size.toNat).1) =
          items := by
  refine ⟨fun total size page => ?_, fun items size page hitems => pageInWords?_eq hitems page size,
    fun items size hitems hsize => ?_⟩
  · obtain ⟨hstart, hstop⟩ := pageWindow_exact (toNat_le_wordMax total) page.toInt size.toNat
    obtain ⟨hmono, hwithin⟩ := pageWindow_mono total.toNat page.toInt size.toNat
    exact ⟨hstart, hstop, hmono, hwithin, windowInWords?_eq total page size⟩
  · have hword : items.length ≤ wordMax := Nat.le_trans hitems (by decide)
    have hpos : 0 < size.toNat := UInt64.le_iff_toNat_le.1 hsize
    refine ⟨Nat.le_trans (pageCount_le _ hpos) hitems, fun page hpage => ?_, ?_⟩
    · have hone : 1 ≤ page.toInt := Int64.le_iff_toInt_le.1 hpage
      obtain ⟨n, hn⟩ : ∃ n : Nat, page.toInt = n + 1 := ⟨(page.toInt - 1).toNat, by omega⟩
      rw [hn, paginate_ne_nil_iff hword hpos]
      omega
    · rw [List.range'_eq_map_range, List.flatMap_map]
      calc _ = (List.range (pageCount items.length size.toNat)).flatMap
                (fun (n : Nat) => (paginate items (n + 1) size.toNat).1) := by
              refine congrArg (List.flatMap · _) (funext fun n => ?_)
              rw [Nat.add_comm, Int.natCast_add_one]
        _ = items := flatMap_paginate hword hpos

/-- Twenty items in pages of eight: the third page is the last one, and shows what is left. -/
theorem paging_exact_range :
    (List.range 20).length ≤ wordMax ∧ (List.range 20).length ≤ Int64.maxValue.toNatClampNeg ∧
      (1 : UInt64) ≤ 8 ∧ (1 : Int64) ≤ 3 ∧
      pageInWords? (List.range 20) 3 8 = some ([16, 17, 18, 19], 20) ∧
      ((paginate (List.range 20) 3 8).1 ≠ [] ↔ (3 : Int) ≤ pageCount 20 8) ∧
      (List.range' 1 3).flatMap (fun page : Nat => (paginate (List.range 20) page 8).1) =
        List.range 20 := by
  have hword : (List.range 20).length ≤ wordMax := by decide
  have hcounted : (List.range 20).length ≤ Int64.maxValue.toNatClampNeg := by decide
  have hsize : (1 : UInt64) ≤ 8 := by decide
  have hpage : (1 : Int64) ≤ 3 := by decide
  obtain ⟨-, hcut, htile⟩ := paging_exact (α := Nat)
  obtain ⟨-, hshown, hall⟩ := htile (List.range 20) 8 hcounted hsize
  exact ⟨hword, hcounted, hsize, hpage, hcut (List.range 20) 8 3 hword, hshown 3 hpage, hall⟩

end Catalog
