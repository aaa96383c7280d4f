import Catalog.Decimal.Shortest

/-!
# Points on the globe

A point by its latitude and longitude in degrees. Points are not checked when they are built from
their parts; `GeoPoint.checked` is the way in for parts of unknown origin.

## Main definitions

* `GeoPoint`: latitude and longitude
* `GeoPoint.checked`: a point whose parts are in range
-/

namespace Catalog

/-- A point by its latitude and longitude in degrees. -/
structure GeoPoint where
  latitude : Float
  longitude : Float
  deriving DecidableEq

/-- The point without an offset from the equator and the prime meridian. -/
def GeoPoint.origin : GeoPoint := ⟨0, 0⟩

/-- Why two numbers are no point. -/
inductive RangeError where
  | latitude (x : Float)
  | longitude (x : Float)

/-- The text of an error. -/
def RangeError.message : RangeError → String
  | .latitude x => "latitude must be within -90..=90, got " ++ formatFloat x
  | .longitude x => "longitude must be within -180..=180, got " ++ formatFloat x

/-- The point with the given parts; the latitude is looked at first. -/
def GeoPoint.checked (latitude longitude : Float) : Except RangeError GeoPoint :=
  if !(-90 ≤ latitude && latitude ≤ 90) then .error (.latitude latitude)
  else if !(-180 ≤ longitude && longitude ≤ 180) then .error (.longitude longitude)
  else .ok ⟨latitude, longitude⟩

end Catalog
