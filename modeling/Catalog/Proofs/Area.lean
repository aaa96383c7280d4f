import Catalog.Area
import Catalog.Proofs.Decimal.TotalOrder

/-!
# The box around a circle

An area search looks for the box around its circle first. It does so in the order of the bits, in
which the box admits what lies in it but for zeros. Whatever the center, the box does not reach
beyond the poles and the line of date, so that it admits only points with usual coordinates; a
circle is not bounded so.

## Main definitions

* `BoundingBox.Admits`: whether a point stands in a box in the order of the bits

## Main results

* `SearchArea.checked_of_admits`: what the box around a circle admits has usual coordinates
-/

namespace Catalog

open Binary64

/-- Whether the coordinates of a point stand between the ends of a box in the total order. -/
structure BoundingBox.Admits (b : BoundingBox) (p : GeoPoint) : Prop where
  minLon_le : rank b.minLon ≤ rank p.longitude
  le_maxLon : rank p.longitude ≤ rank b.maxLon
  minLat_le : rank b.minLat ≤ rank p.latitude
  le_maxLat : rank p.latitude ≤ rank b.maxLat

theorem BoundingBox.admits_iff {b : BoundingBox} {p : GeoPoint} : b.Admits p ↔
    (rank b.minLon ≤ rank p.longitude ∧ rank p.longitude ≤ rank b.maxLon) ∧
      rank b.minLat ≤ rank p.latitude ∧ rank p.latitude ≤ rank b.maxLat :=
  ⟨fun h => ⟨⟨h.minLon_le, h.le_maxLon⟩, h.minLat_le, h.le_maxLat⟩,
    fun h => ⟨h.1.1, h.1.2, h.2.1, h.2.2⟩⟩

instance (b : BoundingBox) (p : GeoPoint) : Decidable (b.Admits p) :=
  decidable_of_iff _ BoundingBox.admits_iff.symm

/-! ### How far a box reaches -/

theorem not_lt_self (x : Float) : ¬ x < x := by
  rw [lt_iff_number]
  exact fun h => lt_irrefl _ h.2.2

theorem not_greater_lt (x y : Float) : ¬ greater x y < y := by
  rw [greater]
  split_ifs with hx hy hlt
  · exact not_lt_self y
  · rw [lt_iff_number, hy]
    exact nofun
  · exact not_lt_self y
  · exact hlt

theorem not_lt_lesser (x y : Float) : ¬ y < lesser x y := by
  rw [lesser]
  split_ifs with hx hy hlt
  · exact not_lt_self y
  · rw [lt_iff_number, hy]
    exact nofun
  · exact not_lt_self y
  · exact hlt

theorem isNaN_lesser {x y : Float} (hy : y.isNaN = false) : (lesser x y).isNaN = false := by
  rw [lesser]
  split_ifs with hx hy' hlt
  · exact hy
  · rw [hy'] at hy
    cases hy
  · exact hy
  · exact Bool.eq_false_iff.mpr hx

namespace SearchArea

variable {a : SearchArea} {p : GeoPoint}

/-- The longitudes of a circle do not reach beyond the line of date, as far as they are numbers. -/
theorem not_lt_longitudes (a : SearchArea) :
    ¬ a.longitudes.1 < -180.0 ∧ ¬ 180.0 < a.longitudes.2 := by
  simp only [longitudes]
  split_ifs with hwhole hbeyond
  · exact ⟨not_lt_self _, not_lt_self _⟩
  · exact ⟨not_lt_self _, not_lt_self _⟩
  · rw [Bool.or_eq_true, decide_eq_true_iff, decide_eq_true_iff, not_or] at hbeyond
    exact hbeyond

/-- **What the box around a circle admits has usual coordinates**, whatever the center and the
radius. -/
theorem checked_of_admits (hmax : a.boundingBox.maxLon.isNaN = false)
    (h : a.boundingBox.Admits p) : GeoPoint.checked p.latitude p.longitude = .ok p := by
  have hmaxLat : a.boundingBox.maxLat.isNaN = false := isNaN_lesser (by decide +kernel)
  obtain ⟨hwest, heast⟩ := a.not_lt_longitudes
  have hminLon : rank (-180) ≤ rank p.longitude :=
    (rank_le_of_not_lt (by decide +kernel) (.inl (by decide +kernel)) hwest).trans h.minLon_le
  have hmaxLon : rank p.longitude ≤ rank 180 :=
    h.le_maxLon.trans (rank_le_of_not_lt hmax (.inr (by decide +kernel)) heast)
  have hminLat : rank (-90) ≤ rank p.latitude :=
    (rank_le_of_not_lt (by decide +kernel) (.inl (by decide +kernel))
      (not_greater_lt _ _)).trans h.minLat_le
  have hmaxLat' : rank p.latitude ≤ rank 90 :=
    h.le_maxLat.trans (rank_le_of_not_lt hmaxLat (.inr (by decide +kernel)) (not_lt_lesser _ _))
  have hlon := not_isNaN_of_rank_le h.le_maxLon hmax
  have hlat := not_isNaN_of_rank_le h.le_maxLat hmaxLat
  have hlatitude : (-90 ≤ p.latitude && p.latitude ≤ 90 : Bool) = true := by
    rw [Bool.and_eq_true, decide_eq_true_iff, decide_eq_true_iff]
    exact ⟨le_of_rank_le hminLat hlat, le_of_rank_le hmaxLat' (by decide +kernel)⟩
  have hlongitude : (-180 ≤ p.longitude && p.longitude ≤ 180 : Bool) = true := by
    rw [Bool.and_eq_true, decide_eq_true_iff, decide_eq_true_iff]
    exact ⟨le_of_rank_le hminLon hlon, le_of_rank_le hmaxLon (by decide +kernel)⟩
  rw [GeoPoint.checked, hlatitude, hlongitude]
  rfl

end SearchArea

end Catalog
