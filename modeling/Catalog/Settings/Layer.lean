import Catalog.Settings.Basic
import Catalog.StableSort
import Catalog.Toml.Reader

/-!
# Layers of settings

Settings come from several places, each of which may set some of them: a higher layer wins over a
lower one, setting by setting. A value need not have the type of its setting: numbers are read from
texts and texts are made of numbers. No setting has parts, so a key that is a path into one leaves
it without a value of any type; an empty table has nothing to say about its key.

## Main definitions

* `SettingValue`: a value as a layer holds it
* `SettingLayer`: values by the names of settings
* `settingPath?`: keys that are paths
* `SettingLayer.ofVariables`: the layer of variables
* `SettingLayer.ofJson?`, `SettingLayer.ofToml?`: the layers of a JSON and a TOML text
* `Settings.ofLayers`: the settings of several layers
-/

namespace Catalog

/-- A value as a layer holds it. -/
inductive SettingValue where
  | bool (b : Bool)
  | int (n : Int64)
  | float (x : Float)
  | text (s : String)
  /-- No value at all, a list or a table with something in it. -/
  | other
  /-- A table with nothing in it, which sets nothing. -/
  | empty
  deriving DecidableEq

/-- Texts that stand for one and for zero. -/
def switchValue? (s : String) : Option UInt64 :=
  match lowercaseText s with
  | "true" | "on" | "yes" => some 1
  | "false" | "off" | "no" => some 0
  | _ => none

/-- A value as a number: a fraction is rounded to the nearest number, away from zero where there are
two, and brought within range. -/
def SettingValue.number? : SettingValue → Option UInt64
  | .bool b => some (if b then 1 else 0)
  | .int n => if n < 0 then none else some n.toUInt64
  | .float x => some (nearestUInt64 x)
  | .text s => switchValue? s <|> (readUInt64 s).toOption
  | .other | .empty => none

/-- A value as a text. -/
def SettingValue.text? : SettingValue → Option String
  | .bool b => some (if b then "true" else "false")
  | .int n => some (toString n.toInt)
  | .float x => some (formatFloat x)
  | .text s => some s
  | .other | .empty => none

/-- What a text of unknown type holds: a truth value, an integer, a decimal or else itself. -/
def SettingValue.ofText (s : String) : SettingValue :=
  match lowercaseText s with
  | "true" => .bool true
  | "false" => .bool false
  | _ =>
    match readInt64 s with
    | .ok n => .int n
    | .error _ =>
      match readDouble s with
      | .ok x => .float x.toFloat
      | .error _ => .text s

/-- What a JSON value holds. -/
def SettingValue.ofJson : Json → SettingValue
  | .bool b => .bool b
  | .string s => .text s
  | .number n =>
    match n.value? with
    | some (.uint u) =>
      if u.toNat < 2 ^ (63 : Nat) then .int (Int64.ofInt u.toNat) else .float u.toFloat
    | some (.int i) => .int i
    | some (.float x) => .float x
    | none => .other
  | .object [] => .empty
  | .null | .array _ | .object _ | .broken => .other

/-- What a TOML value holds. -/
def SettingValue.ofToml : Toml.Value → SettingValue
  | .bool b => .bool b
  | .text s => .text s
  | .moment s => .text s
  | .int n => .int n
  | .float x => .float x
  | .table _ [] => .empty
  | .array _ | .table _ _ | .tables _ _ => .other

/-- Values by the names of settings; of several for one name the last stands. -/
abbrev SettingLayer := List (String × SettingValue)

/-- The value that a layer has for a name. -/
def SettingLayer.value? (l : SettingLayer) (name : String) : Option SettingValue :=
  ((l.reverse.find? fun e => e.1 == name).map Prod.snd).filter (· != .empty)

/-- Whether a character may stand in a part of a path. -/
def isPathChar (c : Char) : Bool :=
  c.isAlphanum || c == '_' || c == '-' || c == ' '

/-- A number of 64 bits in brackets, behind the opening one: a position in a list. -/
def takePosition (s : List Char) : Option (List Char) :=
  let skip (s : List Char) := s.dropWhile (· == ' ')
  let number := (skip s).takeWhile fun c => isAsciiDigit c || c == '-'
  match readInt64 (String.ofList number), skip ((skip s).drop number.length) with
  | .ok _, ']' :: r => some r
  | _, _ => none

/-- Whether a text leads on from a value: names behind points and positions in brackets. -/
def leadsOn : Nat → List Char → Bool
  | _, [] => true
  | n + 1, '.' :: r =>
    let name := r.takeWhile isPathChar
    !name.isEmpty && leadsOn n (r.drop name.length)
  | n + 1, '[' :: r => (takePosition r).any (leadsOn n)
  | _, _ => false

/-- The name of the setting that a key is a path into, if it is one. -/
def settingPath? (key : String) : Option String :=
  let name := key.toList.takeWhile isPathChar
  let rest := key.toList.drop name.length
  if !name.isEmpty && !rest.isEmpty && leadsOn rest.length rest then some (String.ofList name)
  else none

/-- The setting that a key with a value is about. -/
def settingEntry (key : String) (v : SettingValue) : String × SettingValue :=
  match settingPath? key with
  | some name => (name, .other)
  | none => (key, v)

/-- The layer of keys with their values. The case of keys does not count; the values stand in the
order of the keys as they are written. -/
def SettingLayer.ofKeys (entries : List (String × SettingValue)) : SettingLayer :=
  (stableSort (fun a b => a.1 ≤ b.1) entries).map fun (key, v) => settingEntry (lowercaseText key) v

/-- The beginning of the names of variables that set something, in lower case. -/
def variableLabel : String := applicationName ++ "_"

/-- The layer of variables. The case of their names does not count. -/
def SettingLayer.ofVariables (environment : List (String × String)) : SettingLayer :=
  environment.filterMap fun (name, value) =>
    let name := lowercaseText name
    if name.startsWith variableLabel then
      some (settingEntry (String.ofList (name.toList.drop variableLabel.length)) (.ofText value))
    else none

/-- The layer of a JSON text, which has to be an object. -/
def SettingLayer.ofJson? (text : String) : Option SettingLayer :=
  match Json.read? text with
  | some (.object members) => some (.ofKeys (members.map fun (k, v) => (k, .ofJson v)))
  | _ => none

/-- The layer of a TOML text. -/
def SettingLayer.ofToml? (text : String) : Option SettingLayer :=
  (Toml.Members.ofText? text).map fun ms => .ofKeys (ms.map fun (k, v) => (k, .ofToml v))

/-- The value that the highest of some layers has for a name, the highest layer first. -/
def layeredValue? (layers : List SettingLayer) (name : String) : Option SettingValue :=
  layers.findSome? fun l => l.value? name

/-- A setting from layers, or else its default. -/
def layered {α : Type} (layers : List SettingLayer) (name : String)
    (read : SettingValue → Option α) (fallback : α) : Except SettingsError α :=
  match layeredValue? layers name with
  | none => .ok fallback
  | some v =>
    match read v with
    | some a => .ok a
    | none => .error (.invalidValue name)

/-- The settings of layers, the highest layer first. -/
def Settings.ofLayers (d : Settings) (layers : List SettingLayer) :
    Except SettingsError Settings := do
  return {
    indexPath := ← layered layers "index_path" SettingValue.text? d.indexPath
    writerMemoryMb := ← layered layers "writer_memory_mb" SettingValue.number? d.writerMemoryMb
    analyzer := ← layered layers "analyzer" SettingValue.text? d.analyzer
    maxResults := ← layered layers "max_results" SettingValue.number? d.maxResults
    pageSize := ← layered layers "page_size" SettingValue.number? d.pageSize
    logLevel := ← layered layers "log_level" SettingValue.text? d.logLevel }

end Catalog
