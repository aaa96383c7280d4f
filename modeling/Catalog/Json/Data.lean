import Catalog.Json.Reader

/-!
# Data as JSON

Types whose values are written as JSON and read back. A type says what its values look like as
trees; writing may fail, since not every value has a tree.

## Main definitions

* `JsonData`: the conversion of a type to and from trees
* `JsonData.write?`, `JsonData.read?`: the conversion to and from texts
-/

namespace Catalog

/-- A type whose values are written as JSON. -/
class JsonData (α : Type) where
  /-- The tree of a value, if it has one. -/
  toJson? : α → Option Json
  /-- The value of a tree, if it is one of the type. -/
  ofJson? : Json → Option α

/-- The JSON text of a value. -/
def JsonData.write? {α : Type} [JsonData α] (a : α) : Option String :=
  (JsonData.toJson? a).map Json.render

/-- The value of a JSON text. -/
def JsonData.read? {α : Type} [JsonData α] (s : String) : Option α :=
  (Json.parse? s).bind JsonData.ofJson?

/-- The integer that a tree denotes, if it is written as one and lies between two bounds. -/
def Json.toInt? (least greatest : Int) (v : Json) : Option Int :=
  let n : Option Int := match v with
    | .number n =>
      match n.value? with
      | some (.uint u) => some u.toNat
      | some (.int i) => some i.toInt
      | _ => none
    | _ => none
  n.filter fun n => least ≤ n && n ≤ greatest

/-- The text that a tree denotes. -/
def Json.toText? : Json → Option String
  | .string s => some s
  | _ => none

instance : JsonData String where
  toJson? s := some (.string s)
  ofJson? := Json.toText?

instance : JsonData UInt8 where
  toJson? n := some (.number (JsonNumber.ofInt n.toNat))
  ofJson? v := (v.toInt? 0 255).map fun n => n.toNat.toUInt8

instance : JsonData Int32 where
  toJson? n := some (.number (JsonNumber.ofInt n.toInt))
  ofJson? v := (v.toInt? (-2 ^ (31 : Nat)) (2 ^ (31 : Nat) - 1)).map Int32.ofInt

instance : JsonData Int64 where
  toJson? n := some (.number (JsonNumber.ofInt n.toInt))
  ofJson? v := (v.toInt? (-2 ^ (63 : Nat)) (2 ^ (63 : Nat) - 1)).map Int64.ofInt

instance {α : Type} [JsonData α] : JsonData (List α) where
  toJson? l := (l.mapM JsonData.toJson?).map Json.array
  ofJson?
    | .array items => items.mapM JsonData.ofJson?
    | _ => none

/-- A finite map with texts for keys, in ascending order of the keys. -/
structure TextMap (α : Type) where
  entries : List (String × α)

/-- The map with one more entry, or another value for a key that it has. -/
def TextMap.insertSorted {α : Type} (k : String) (v : α) :
    List (String × α) → List (String × α)
  | [] => [(k, v)]
  | (k', v') :: r =>
    if k < k' then (k, v) :: (k', v') :: r
    else if k = k' then (k, v) :: r
    else (k', v') :: TextMap.insertSorted k v r

/-- The map of a list of entries, the last entry of a key standing. -/
def TextMap.ofList {α : Type} (l : List (String × α)) : TextMap α :=
  ⟨l.foldl (fun m e => TextMap.insertSorted e.1 e.2 m) []⟩

instance {α : Type} [JsonData α] : JsonData (TextMap α) where
  toJson? m := (m.entries.mapM fun e => (JsonData.toJson? e.2).map (e.1, ·)).map Json.object
  ofJson?
    | .object members =>
      (members.mapM fun e => (JsonData.ofJson? e.2).map (e.1, ·)).map TextMap.ofList
    | _ => none

/-- The only member of a name: none if there is no such member, nothing at all if there are
several. -/
def Json.member? (members : List (String × Json)) (name : String) : Option (Option Json) :=
  match members.filter fun e => e.1 == name with
  | [] => some none
  | [e] => some (some e.2)
  | _ => none

end Catalog
