/-!
# Sorting

A list is sorted by inserting its elements one by one. What an order does not tell apart stays as it
was, so a later sort keeps what an earlier one has done where its own order does not decide.

## Main definitions

* `insertSorted`: an element in its place of a sorted list
* `stableSort`: a list in order

## Main results

* `stableSort_perm`: sorting keeps the elements
-/

namespace Catalog

variable {α : Type}

/-- Puts an element in front of the first that it may stand before. -/
def insertSorted (le : α → α → Bool) (a : α) : List α → List α
  | [] => [a]
  | b :: l => if le a b then a :: b :: l else b :: insertSorted le a l

/-- The elements of a list in order. -/
def stableSort (le : α → α → Bool) (l : List α) : List α :=
  l.foldr (insertSorted le) []

theorem insertSorted_perm (le : α → α → Bool) (a : α) (l : List α) :
    (insertSorted le a l).Perm (a :: l) := by
  induction l with
  | nil => exact .refl _
  | cons b l ih =>
    unfold insertSorted
    split
    · exact .refl _
    · exact (ih.cons b).trans (.swap a b l)

theorem stableSort_perm (le : α → α → Bool) (l : List α) : (stableSort le l).Perm l := by
  induction l with
  | nil => exact .refl _
  | cons a l ih => exact (insertSorted_perm le a _).trans (ih.cons a)

theorem mem_stableSort {le : α → α → Bool} {l : List α} {a : α} :
    a ∈ stableSort le l ↔ a ∈ l :=
  (stableSort_perm le l).mem_iff

end Catalog
