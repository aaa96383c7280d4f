import Catalog.Document

/-!
# Venues

A record type with optional properties, with narrow number types and with an analyzed copy of a
number. `VenueView` describes the same index with one of its properties only, perhaps at another
type.

## Main definitions

* `Venue`, `Venue.recordType`: the records and their description
* `VenueView`, `VenueView.recordType`: the identity of a venue and one more property
-/

namespace Catalog

/-- A venue. -/
structure Venue where
  code : RecordId
  title : String
  rank : Int32
  small : Int8
  visitors : UInt64
  rating : Single
  opened : Option Moment
  spot : Option GeoPoint
  home : GeoPoint
  tags : Structured (List String)
  note : Option String
  level : Option Int64
  fee : Option Double

namespace Venue

/-- A venue of which nothing is known. -/
def blank : Venue where
  code := ⟨""⟩
  title := ""
  rank := 0
  small := 0
  visitors := 0
  rating := ⟨0⟩
  opened := none
  spot := none
  home := .origin
  tags := ⟨[]⟩
  note := none
  level := none
  fee := none

/-- The description of venues. -/
def recordType : RecordType Venue where
  name := "Venue"
  blank := blank
  declarations := [
    .storedAs "code" "key" Venue.code fun r v => { r with code := v },
    .analyzedAs "title" "heading" Venue.title fun r v => { r with title := v },
    .stored "rank" Venue.rank fun r v => { r with rank := v },
    .field "small" Venue.small fun r v => { r with small := v },
    .field "visitors" Venue.visitors fun r v => { r with visitors := v },
    .field "rating" Venue.rating fun r v => { r with rating := v },
    .field "opened" Venue.opened fun r v => { r with opened := v },
    .geo "spot" Venue.spot fun r v => { r with spot := v },
    .field "home" Venue.home fun r v => { r with home := v },
    .field "tags" Venue.tags fun r v => { r with tags := v },
    .analyzed "note" Venue.note fun r v => { r with note := v },
    .analyzed "level" Venue.level fun r v => { r with level := v },
    .analyzed "fee" Venue.fee fun r v => { r with fee := v }]

end Venue

/-- A venue by its code and one more property. -/
structure VenueView (α : Type) where
  code : RecordId
  value : α

/-- The description of venues by their code and one more property. -/
def VenueView.recordType {α : Type} [FieldType α] (property : String) (blank : α) :
    RecordType (VenueView α) where
  name := "Venue"
  blank := ⟨⟨""⟩, blank⟩
  declarations := [
    .storedAs "code" "key" VenueView.code fun r v => { r with code := v },
    .field property VenueView.value fun r v => { r with value := v }]

end Catalog
