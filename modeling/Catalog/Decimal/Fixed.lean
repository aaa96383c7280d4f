import Catalog.Decimal.Shortest

/-!
# Decimals with a fixed number of places

The exact value of a double is rounded to a number of decimal places, a half going to the even
neighbour.

## Main definitions

* `fixedPlaces`: a double with so many places
-/

namespace Catalog

/-- A double with a fixed number of decimal places. -/
def fixedPlaces (places : Nat) (x : Float) : String :=
  match Binary.ofFloat x with
  | .finite negative m e _ =>
    let num := m * 10 ^ places * (if 0 ≤ e then 2 ^ e.toNat else 1)
    let den := if 0 ≤ e then 1 else 2 ^ (-e).toNat
    withSign negative (positional ⟨roundHalfEven num den, -(places : Int)⟩)
  | v => v.format

end Catalog
