import Catalog.Power

/-!
# Pages

A list is shown in pages of a fixed size, counted from one; a page number below one means the first
page. Positions are 64-bit words, and a position that would outgrow them stays at the greatest one.

## Main definitions

* `pageWindow`: the positions that a page shows
* `paginate`: the items that a page shows
* `pageCount`: the number of pages
-/

namespace Catalog

/-- The greatest 64-bit word. -/
def wordMax : Nat := 2 ^ (64 : Nat) - 1

/-- A product of words, or the greatest word. -/
def saturatingMul (a b : Nat) : Nat := min (a * b) wordMax

/-- A sum of words, or the greatest word. -/
def saturatingAdd (a b : Nat) : Nat := min (a + b) wordMax

/-- The first position that a page shows and the first one after it. -/
def pageWindow (total : Nat) (page : Int) (size : Nat) : Nat × Nat :=
  let start := min (saturatingMul ((max page 1).toNat - 1) size) total
  (start, min (saturatingAdd start size) total)

/-- The items that a page shows, and the number of all items. -/
def paginate {α : Type} (items : List α) (page : Int) (size : Nat) : List α × Nat :=
  let (start, stop) := pageWindow items.length page size
  ((items.take stop).drop start, items.length)

/-- The number of pages; none if a page has no room. -/
def pageCount (total size : Nat) : Nat :=
  if size = 0 then 0 else (total + size - 1) / size

end Catalog
