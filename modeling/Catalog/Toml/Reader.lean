import Catalog.Toml.Scalar
import Catalog.Toml.Text

/-!
# Reading TOML

A TOML text is a list of lines: a key with its value, or the header of the table to which the keys
below it belong. Arrays may go over several lines, tables in braces may not.

## Main definitions

* `takeValue`: a value in front of a text
* `Members.ofText?`: the table that a text describes
-/

namespace Catalog.Toml

mutual

/-- A value within so many others. -/
def takeValue : Nat → Nat → List Char → Option (Value × List Char)
  | 0, _, _ => none
  | n + 1, depth, s =>
    match s with
    | '"' :: _ => (takeText s).map fun (t, r) => (.text t, r)
    | '\'' :: _ => (takeText s).map fun (t, r) => (.text t, r)
    | '[' :: r =>
      if nestingLimit ≤ depth + 1 then none
      else (takeItems n (depth + 1) r).map fun (items, r) => (.array items, r)
    | '\x7b' :: r =>
      if nestingLimit ≤ depth + 1 then none
      else
        match skipSpace r with
        | '\x7d' :: r => some (.table .closed [], r)
        | r => (takeMembers n (depth + 1) [] r).map fun (ms, r) => (.table .closed ms, r)
    | _ => takeScalar s

/-- The items of an array and its closing bracket. -/
def takeItems : Nat → Nat → List Char → Option (List Value × List Char)
  | 0, _, _ => none
  | n + 1, depth, s =>
    match skipLines (s.length + 1) s with
    | ']' :: r => some ([], r)
    | r =>
      (takeValue n depth r).bind fun (v, r) =>
        match skipLines (r.length + 1) r with
        | ',' :: r => (takeItems n depth r).map fun (items, r) => (v :: items, r)
        | ']' :: r => some ([v], r)
        | _ => none

/-- The further members of a table in braces and its closing brace. -/
def takeMembers : Nat → Nat → Members → List Char → Option (Members × List Char)
  | 0, _, _, _ => none
  | n + 1, depth, ms, s =>
    match takeKey s with
    | some ((path, key), '=' :: r) =>
      (takeValue n depth (skipSpace r)).bind fun (v, r) =>
        (ms.define? path key v).bind fun ms =>
          match skipSpace r with
          | ',' :: r => takeMembers n depth ms r
          | '\x7d' :: r => some (ms, r)
          | _ => none
    | _ => none

end

/-- A header and the text behind its line: the table that it opens, and whether that is one of
several. -/
def takeHeader (s : List Char) : Option ((Bool × List String × String) × List Char) := do
  let (isNext, r) := match s with
    | '[' :: r => (true, r)
    | r => (false, r)
  let ((path, key), r) ← takeKey r
  let r ← takeMark ']' r
  let r ← if isNext then takeMark ']' r else some r
  return ((isNext, path, key), ← takeLineEnd r)

/-- The table of all lines, given what the lines so far describe and the header that they are
under. -/
def takeLines : Nat → List String → Members → List Char → Option Members
  | 0, _, _, _ => none
  | n + 1, header, ms, s =>
    match skipLines (s.length + 1) s with
    | [] => some ms
    | '[' :: r => do
      let ((isNext, path, key), r) ← takeHeader r
      let ms ← if isNext then ms.openNext? path key else ms.openTable? path key
      takeLines n (path ++ [key]) ms r
    | r => do
      let ((path, key), r) ← takeKey r
      let (v, r) ← takeValue (r.length + 1) 0 (skipSpace (← takeMark '=' r))
      takeLines n header (← ms.defineUnder? header path key v) (← takeLineEnd r)

/-- The text without a mark of its byte order. -/
def dropByteOrderMark : List Char → List Char
  | '\uFEFF' :: r => r
  | r => r

/-- The table that a text describes. -/
def Members.ofText? (text : String) : Option Members :=
  takeLines (text.length + 1) [] [] (dropByteOrderMark text.toList)

end Catalog.Toml
