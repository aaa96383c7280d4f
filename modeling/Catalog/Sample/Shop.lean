import Catalog.Document

/-!
# Shops

A record type with a property of every role: an identity, analyzed and stored texts, numbers, a
date, a point that is searched by area, opening hours kept as JSON and two properties left out.

## Main definitions

* `Hours`, `Shop`: the records
* `Shop.recordType`: their description
* `numberedShops`: as many shops as needed
-/

namespace Catalog

/-- Opening hours. -/
structure Hours where
  opening : UInt8
  closing : UInt8
  deriving DecidableEq, Repr

/-- Hours are written as an object; a list of the two numbers is read as well. -/
instance : JsonData Hours where
  toJson? h := some (.object [("open", .number (JsonNumber.ofInt h.opening.toNat)),
    ("close", .number (JsonNumber.ofInt h.closing.toNat))])
  ofJson?
    | .object members => do
      let opening ← (← Json.member? members "open")
      let closing ← (← Json.member? members "close")
      return ⟨← JsonData.ofJson? opening, ← JsonData.ofJson? closing⟩
    | .array [opening, closing] => do
      return ⟨← JsonData.ofJson? opening, ← JsonData.ofJson? closing⟩
    | _ => none

/-- A shop. -/
structure Shop where
  id : RecordId
  name : String
  category : String
  stock : Int64
  price : Double
  opened : Moment
  location : GeoPoint
  hours : Structured Hours
  scratch : String
  distance : Float

namespace Shop

/-- A shop of which nothing is known. -/
def blank : Shop where
  id := ⟨""⟩
  name := ""
  category := ""
  stock := 0
  price := .ofFloat 0
  opened := .epoch
  location := .origin
  hours := ⟨⟨0, 0⟩⟩
  scratch := ""
  distance := 0

/-- The description of shops. -/
def recordType : RecordType Shop where
  name := "Shop"
  blank := blank
  declarations := [
    .field "id" Shop.id fun s v => { s with id := v },
    .analyzed "name" Shop.name fun s v => { s with name := v },
    .storedAs "category" "kind" Shop.category fun s v => { s with category := v },
    .field "stock" Shop.stock fun s v => { s with stock := v },
    .field "price" Shop.price fun s v => { s with price := v },
    .field "opened" Shop.opened fun s v => { s with opened := v },
    .geo "location" Shop.location fun s v => { s with location := v },
    .field "hours" Shop.hours fun s v => { s with hours := v },
    .noIndex "scratch",
    .noIndex "distance"]
  setDistance s x := { s with distance := x }

end Shop

/-- The middle of Athens. -/
def athens : GeoPoint := ⟨37.9838, 23.7275⟩

/-- The day on which the numbered shops opened. -/
def openingDay : Moment :=
  (Moment.ofParts? 2020 5 17 0 0 0 0).getD .epoch

/-- The shop of a number: its name and its stock tell the number. -/
def numberedShop (n : Nat) : Shop :=
  { Shop.blank with
    name := "shop-" ++ toString n
    category := "bakery"
    stock := Int64.ofNat n
    price := .ofFloat 2.5
    opened := openingDay
    location := athens
    hours := ⟨⟨7, 21⟩⟩ }

/-- The shops of the numbers below a bound. -/
def numberedShops (count : Nat) : List Shop :=
  (List.range count).map numberedShop

end Catalog
