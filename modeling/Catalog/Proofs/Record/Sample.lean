import Catalog.Proofs.Record.Document
import Catalog.Sample.Shop
import Catalog.Sample.Venue

/-!
# Shops and venues as descriptions

The sample record types are described by components that do not touch each other, so that what holds
of all descriptions holds of them.

## Main definitions

* `Shop.description`, `Venue.description`, `VenueView.description`: the members of the record types
* `Shop.schema`, `Venue.schema`: their schemas

## Main results

* `Shop.recordType_description`, `Venue.recordType_description`,
  `VenueView.recordType_description`: they are those record types
* `Shop.build_description`, `Venue.build_description`: they have those schemas
* `Shop.nodup_storeFields`, `Venue.nodup_storeFields`: the fields of their indexes are different
-/

namespace Catalog

namespace Shop

/-- The members of shops. -/
def description : RecordDescription Shop where
  name := "Shop"
  blank := blank
  members := [
    .property ⟨"id", .unmarked, by decide, .recordId, Shop.id, fun s v => { s with id := v },
      fun _ _ => rfl⟩,
    .property ⟨"name", .analyzed none, by decide, .string, Shop.name,
      fun s v => { s with name := v }, fun _ _ => rfl⟩,
    .property ⟨"category", .stored (some "kind"), by decide, .string, Shop.category,
      fun s v => { s with category := v }, fun _ _ => rfl⟩,
    .property ⟨"stock", .unmarked, by decide, .int64, Shop.stock,
      fun s v => { s with stock := v }, fun _ _ => rfl⟩,
    .property ⟨"price", .unmarked, by decide, .double, Shop.price,
      fun s v => { s with price := v }, fun _ _ => rfl⟩,
    .property ⟨"opened", .unmarked, by decide, .moment, Shop.opened,
      fun s v => { s with opened := v }, fun _ _ => rfl⟩,
    .property ⟨"location", .geo, by decide, .geoPoint, Shop.location,
      fun s v => { s with location := v }, fun _ _ => rfl⟩,
    .property ⟨"hours", .unmarked, by decide, .structured Hours, Shop.hours,
      fun s v => { s with hours := v }, fun _ _ => rfl⟩,
    .leftOut "scratch",
    .leftOut "distance"]
  setDistance s x := { s with distance := x }
  independent := by
    simp [List.filterMap_cons, Member.property?, Property.Independent]

theorem recordType_description : description.recordType = recordType := rfl

/-- The schema of shops. -/
def schema : Schema Shop :=
  ⟨"Shop", description.properties.map Property.column⟩

theorem build_description : Schema.build description.recordType = .ok schema := rfl

theorem nodup_storeFields : (schema.storeFields.map StoreField.name).Nodup := by
  decide

end Shop

namespace Venue

/-- The members of venues. -/
def description : RecordDescription Venue where
  name := "Venue"
  blank := blank
  members := [
    .property ⟨"code", .stored (some "key"), by decide, .recordId, Venue.code,
      fun r v => { r with code := v }, fun _ _ => rfl⟩,
    .property ⟨"title", .analyzed (some "heading"), by decide, .string, Venue.title,
      fun r v => { r with title := v }, fun _ _ => rfl⟩,
    .property ⟨"rank", .stored none, by decide, .int32, Venue.rank,
      fun r v => { r with rank := v }, fun _ _ => rfl⟩,
    .property ⟨"small", .unmarked, by decide, .int8, Venue.small,
      fun r v => { r with small := v }, fun _ _ => rfl⟩,
    .property ⟨"visitors", .unmarked, by decide, .uint64, Venue.visitors,
      fun r v => { r with visitors := v }, fun _ _ => rfl⟩,
    .property ⟨"rating", .unmarked, by decide, .single, Venue.rating,
      fun r v => { r with rating := v }, fun _ _ => rfl⟩,
    .property ⟨"opened", .unmarked, by decide, .option .moment, Venue.opened,
      fun r v => { r with opened := v }, fun _ _ => rfl⟩,
    .property ⟨"spot", .geo, by decide, .option .geoPoint, Venue.spot,
      fun r v => { r with spot := v }, fun _ _ => rfl⟩,
    .property ⟨"home", .unmarked, by decide, .geoPoint, Venue.home,
      fun r v => { r with home := v }, fun _ _ => rfl⟩,
    .property ⟨"tags", .unmarked, by decide, .structured (List String), Venue.tags,
      fun r v => { r with tags := v }, fun _ _ => rfl⟩,
    .property ⟨"note", .analyzed none, by decide, .option .string, Venue.note,
      fun r v => { r with note := v }, fun _ _ => rfl⟩,
    .property ⟨"level", .analyzed none, by decide, .option .int64, Venue.level,
      fun r v => { r with level := v }, fun _ _ => rfl⟩,
    .property ⟨"fee", .analyzed none, by decide, .option .double, Venue.fee,
      fun r v => { r with fee := v }, fun _ _ => rfl⟩]
  independent := by
    simp [Member.property?, Property.Independent]

theorem recordType_description : description.recordType = recordType := rfl

/-- The schema of venues. -/
def schema : Schema Venue :=
  ⟨"Venue", description.properties.map Property.column⟩

theorem build_description : Schema.build description.recordType = .ok schema := rfl

theorem nodup_storeFields : (schema.storeFields.map StoreField.name).Nodup := by
  decide

end Venue

namespace VenueView

variable {α : Type}

/-- The members of views of venues. -/
def description (property : String) (t : PropertyType α) (blank : α) :
    RecordDescription (VenueView α) where
  name := "Venue"
  blank := ⟨⟨""⟩, blank⟩
  members := [
    .property ⟨"code", .stored (some "key"), by decide, .recordId, VenueView.code,
      fun r v => { r with code := v }, fun _ _ => rfl⟩,
    .property ⟨property, .unmarked, by decide, t, VenueView.value,
      fun r v => { r with value := v }, fun _ _ => rfl⟩]
  independent := by
    simp [Member.property?, Property.Independent]

theorem recordType_description (property : String) (t : PropertyType α) (blank : α) :
    (description property t blank).recordType =
      @VenueView.recordType α t.fieldType property blank := rfl

end VenueView

end Catalog
