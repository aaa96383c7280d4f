import Catalog.Field.Value

/-!
# Areas on the globe

Distances are measured along great circles of a sphere with the equatorial radius of the Earth. A
search area is a circle around a center; a box of latitudes and longitudes around it narrows a
search before the circle decides.

## Main definitions

* `sine`, `cosine`, `arcsine`: the functions of angles
* `distanceDegrees`, `distanceKm`: the distance of two points
* `SearchArea`: a circle, `SearchArea.contains`: its points
* `SearchArea.boundingBox`: the box around it
* `SpatialFields`: the stored fields that an area search reads

## Implementation notes

The functions of angles are known exactly near zero, where they are the angle or one; elsewhere
nothing is said about them here.
-/

namespace Catalog

/-- The equatorial radius of the Earth in kilometres. -/
def earthRadiusKm : Float := 6378.137

/-- Half the circumference of the unit circle. -/
def halfTurn : Float := 3.141592653589793

/-- An angle in degrees. -/
def toDegrees (x : Float) : Float := x * (180.0 / halfTurn)

/-- An angle in radians. -/
def toRadians (x : Float) : Float := x * (halfTurn / 180.0)

/-- The greater of two values; what is not a number does not count. -/
def greater (x y : Float) : Float :=
  if x.isNaN then y else if y.isNaN then x else if x < y then y else x

/-- The lesser of two values; what is not a number does not count. -/
def lesser (x y : Float) : Float :=
  if x.isNaN then y else if y.isNaN then x else if y < x then y else x

/-- The arc, in degrees, of a distance along the surface. -/
def kmToDegrees (km : Float) : Float := toDegrees (km / earthRadiusKm)

/-- The distance along the surface of an arc in degrees. -/
def degreesToKm (degrees : Float) : Float := toRadians degrees * earthRadiusKm

/-- Angles below this bound are their own sines, to the last bit of a double. -/
def smallAngle : Float := 1.4901161193847656e-8

/-- The sine of an angle in radians. -/
def sine (x : Float) : Float :=
  if Float.abs x < smallAngle then x else Float.sin x

/-- The cosine of an angle in radians. -/
def cosine (x : Float) : Float :=
  if Float.abs x < smallAngle / 2 then 1 else Float.cos x

/-- The angle in radians that has a sine. -/
def arcsine (x : Float) : Float :=
  if Float.abs x < smallAngle then x else Float.asin x

/-- The square of a value. -/
def squared (x : Float) : Float := x * x

/-- The great-circle distance of two points, as an arc in degrees. -/
def distanceDegrees (a b : GeoPoint) : Float :=
  let lat1 := toRadians a.latitude
  let lat2 := toRadians b.latitude
  let dlat := lat2 - lat1
  let dlon := toRadians (b.longitude - a.longitude)
  let h := squared (sine (dlat / 2.0)) +
    cosine lat1 * cosine lat2 * squared (sine (dlon / 2.0))
  toDegrees (2.0 * arcsine (lesser (Float.sqrt h) 1.0))

/-- The great-circle distance of two points in kilometres. -/
def distanceKm (a b : GeoPoint) : Float := degreesToKm (distanceDegrees a b)

/-- Whether a number may be a radius: positive and finite. -/
def isRadius (km : Float) : Bool := km.isFinite && 0.0 < km

/-- A circle around a center. -/
structure SearchArea where
  center : GeoPoint
  radiusKm : Float
  isRadius_radiusKm : isRadius radiusKm = true

/-- The circle of a center and a radius, if the radius is one. -/
def SearchArea.ofRadius? (center : GeoPoint) (radiusKm : Float) : Option SearchArea :=
  if h : isRadius radiusKm = true then some ⟨center, radiusKm, h⟩ else none

/-- The radius as an arc in degrees. -/
def SearchArea.radiusDegrees (a : SearchArea) : Float := kmToDegrees a.radiusKm

/-- Whether a point lies in the circle. -/
def SearchArea.contains (a : SearchArea) (p : GeoPoint) : Bool :=
  distanceDegrees a.center p ≤ a.radiusDegrees

/-- A range of latitudes and a range of longitudes. -/
structure BoundingBox where
  minLat : Float
  maxLat : Float
  minLon : Float
  maxLon : Float

/-- Whether a point lies in a box. -/
def BoundingBox.contains (b : BoundingBox) (p : GeoPoint) : Bool :=
  b.minLon ≤ p.longitude && p.longitude ≤ b.maxLon && b.minLat ≤ p.latitude && p.latitude ≤ b.maxLat

/-- The longitudes that a circle reaches. Around a pole, and across the line of date, they are all
longitudes. -/
def SearchArea.longitudes (a : SearchArea) : Float × Float :=
  let radius := a.radiusDegrees
  let sinRadius := sine (toRadians radius)
  let cosLat := cosine (toRadians a.center.latitude)
  if 90.0 ≤ Float.abs a.center.latitude + radius || cosLat ≤ sinRadius then (-180.0, 180.0)
  else
    let spread := toDegrees (arcsine (sinRadius / cosLat))
    let least := a.center.longitude - spread
    let greatest := a.center.longitude + spread
    if least < -180.0 || 180.0 < greatest then (-180.0, 180.0) else (least, greatest)

/-- The box around a circle. -/
def SearchArea.boundingBox (a : SearchArea) : BoundingBox :=
  let radius := a.radiusDegrees
  let (minLon, maxLon) := a.longitudes
  { minLat := greater (a.center.latitude - radius) (-90.0)
    maxLat := lesser (a.center.latitude + radius) 90.0
    minLon, maxLon }

/-- The beginning of the names of the fields that an area search reads. -/
def spatialPrefix : String := "pvs_"

/-- The fields kept of a point for area searches, by the name that they share. -/
structure SpatialFields where
  point : String
  deriving DecidableEq

/-- The fields of a property. -/
def SpatialFields.ofProperty (property : String) : SpatialFields := ⟨spatialPrefix ++ property⟩

/-- The field of the longitude. -/
def SpatialFields.x (f : SpatialFields) : String := f.point ++ "__x"

/-- The field of the latitude. -/
def SpatialFields.y (f : SpatialFields) : String := f.point ++ "__y"

/-- A point as the text of a geometry: longitude first. -/
def GeoPoint.geometry (p : GeoPoint) : String :=
  "POINT (" ++ formatFloat p.longitude ++ " " ++ formatFloat p.latitude ++ ")"

/-- What the fields hold for a point. -/
def SpatialFields.values (f : SpatialFields) (p : GeoPoint) : List (String × Payload) :=
  [(f.point, .text p.geometry), (f.x, .double (.ofFloat p.longitude)),
    (f.y, .double (.ofFloat p.latitude))]

end Catalog
