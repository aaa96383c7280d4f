import Catalog.Decimal.Reader

/-!
# JSON values

A JSON text as a tree. Numbers keep their digits, so that what a number is worth, and whether it is
worth anything, is asked only where it is used; objects keep their members in order, repeated names
included. The same holds of strings: one that has half of a surrogate pair is no text, which does
not matter where the value is passed over.

## Main definitions

* `Json`: the tree
* `JsonNumber.value?`: what a number is worth
* `Json.depth`, `Json.isSound`: what a reader of values has to check besides the grammar
* `Json.render`: the text without blanks
-/

namespace Catalog

/-- A number by its digits. -/
structure JsonNumber where
  negative : Bool
  whole : List Char
  /-- Digits after the point, if there is one. -/
  fraction : Option (List Char)
  /-- Sign and digits of the exponent, if there is one. -/
  exponent : Option (Bool × List Char)
  deriving DecidableEq, Repr

/-- A JSON value. -/
inductive Json where
  | null
  | bool (b : Bool)
  | number (n : JsonNumber)
  | string (s : String)
  | array (items : List Json)
  | object (members : List (String × Json))
  /-- A string that is no text, or an object with a name that is no text. -/
  | broken

/-- What a number is worth. -/
inductive JsonNumber.Value where
  | uint (n : UInt64)
  | int (n : Int64)
  | float (x : Float)

/-- Appends digits to a significand while it stays below `2 ^ 64`; also counts them. -/
def growSignificand (n : Nat) : List Char → Nat × Nat
  | [] => (n, 0)
  | c :: r =>
    let n' := 10 * n + digitsValue [c]
    if n' < 2 ^ (64 : Nat) then
      let (m, k) := growSignificand n' r
      (m, k + 1)
    else (n, 0)

/-- `x * 10 ^ exponent` by one multiplication or division, or by divisions by `10 ^ 308` before.
There is no value beyond the doubles. -/
def scaleFloat (x : Float) (exponent : Int) : Nat → Option Float
  | 0 => some x
  | steps + 1 =>
    if 0 ≤ exponent then
      if exponent ≤ 308 then
        let y := x * Float.ofScientific 1 false exponent.toNat
        if y.isInf then none else some y
      else if x == 0 then some x else none
    else if -308 ≤ exponent then some (x / Float.ofScientific 1 false (-exponent).toNat)
    else if x == 0 then some x
    else scaleFloat (x / Float.ofScientific 1 false 308) (exponent + 308) steps

/-- The bound of exponents: a larger one is not counted digit by digit. -/
def exponentBound : Int := 2 ^ (31 : Nat) - 1

/-- What a number is worth: an integer where it is written as one and fits 64 bits, else a double.
A significand is cut where it would outgrow 64 bits. -/
def JsonNumber.value? (n : JsonNumber) : Option JsonNumber.Value :=
  let (whole, wholeCount) := growSignificand 0 n.whole
  let dropped := n.whole.length - wholeCount
  let signed (x : Float) : JsonNumber.Value := .float (if n.negative then -x else x)
  match n.fraction, n.exponent, dropped with
  | none, none, 0 =>
    if !n.negative then some (.uint whole.toUInt64)
    else if 0 < whole ∧ whole ≤ 2 ^ (63 : Nat) then some (.int (Int64.ofInt (-whole)))
    else some (.float (-whole.toUInt64.toFloat))
  | _, _, _ =>
    let (significand, fractionCount) := growSignificand whole (n.fraction.getD [])
    let start : Int := (dropped : Int) - fractionCount
    let x := significand.toUInt64.toFloat
    match n.exponent with
    | none => (scaleFloat x start 8).map signed
    | some (negative, digits) =>
      let e : Int := digitsValue digits
      if exponentBound < e then
        if significand ≠ 0 ∧ !negative then none else some (signed 0)
      else (scaleFloat x (if negative then start - e else start + e) 8).map signed

/-- The text of a number: the one it was read from. -/
def JsonNumber.render (n : JsonNumber) : List Char :=
  (if n.negative then ['-'] else []) ++ n.whole ++
    (match n.fraction with
      | some f => '.' :: f
      | none => []) ++
    (match n.exponent with
      | some (negative, e) => 'e' :: (if negative then ['-'] else []) ++ e
      | none => [])

/-- The number of an integer. -/
def JsonNumber.ofInt (n : Int) : JsonNumber :=
  ⟨n < 0, (toString n.natAbs).toList, none, none⟩

mutual

/-- How deep arrays and objects are nested. -/
def Json.depth : Json → Nat
  | .array items => Json.depthItems items + 1
  | .object members => Json.depthMembers members + 1
  | _ => 0

/-- The greatest depth of the items of an array. -/
def Json.depthItems : List Json → Nat
  | [] => 0
  | v :: r => max v.depth (Json.depthItems r)

/-- The greatest depth of the members of an object. -/
def Json.depthMembers : List (String × Json) → Nat
  | [] => 0
  | (_, v) :: r => max v.depth (Json.depthMembers r)

end

mutual

/-- Whether every number of a value is worth something and every string a text. -/
def Json.isSound : Json → Bool
  | .number n => n.value?.isSome
  | .array items => Json.areSound items
  | .object members => Json.haveSound members
  | .broken => false
  | _ => true

/-- Whether the items of an array are sound. -/
def Json.areSound : List Json → Bool
  | [] => true
  | v :: r => v.isSound && Json.areSound r

/-- Whether the members of an object have sound values. -/
def Json.haveSound : List (String × Json) → Bool
  | [] => true
  | (_, v) :: r => v.isSound && Json.haveSound r

end

/-- A digit of base sixteen, lower case. -/
def hexDigit (n : Nat) : Char :=
  Nat.digitChar n

/-- A character inside a JSON string. -/
def jsonChar (c : Char) : List Char :=
  if c = '"' then ['\\', '"']
  else if c = '\\' then ['\\', '\\']
  else if c = '\x08' then ['\\', 'b']
  else if c = '\x0c' then ['\\', 'f']
  else if c = '\n' then ['\\', 'n']
  else if c = '\r' then ['\\', 'r']
  else if c = '\t' then ['\\', 't']
  else if c.toNat < 0x20 then
    ['\\', 'u', '0', '0', hexDigit (c.toNat / 16), hexDigit (c.toNat % 16)]
  else [c]

/-- A text as a JSON string. -/
def jsonString (s : String) : List Char :=
  '"' :: s.toList.flatMap jsonChar ++ ['"']

mutual

/-- The text of a value, as characters. What is broken has none. -/
def Json.renderChars : Json → List Char
  | .null => "null".toList
  | .bool true => "true".toList
  | .bool false => "false".toList
  | .number n => n.render
  | .string s => jsonString s
  | .array items => '[' :: Json.renderItems items ++ [']']
  | .object members => '\x7b' :: Json.renderMembers members ++ ['\x7d']
  | .broken => []

/-- The items of an array with commas between them. -/
def Json.renderItems : List Json → List Char
  | [] => []
  | [v] => v.renderChars
  | v :: r => v.renderChars ++ ',' :: Json.renderItems r

/-- The members of an object with commas between them. -/
def Json.renderMembers : List (String × Json) → List Char
  | [] => []
  | [(k, v)] => jsonString k ++ ':' :: v.renderChars
  | (k, v) :: r => jsonString k ++ ':' :: v.renderChars ++ ',' :: Json.renderMembers r

end

/-- The text of a value. -/
def Json.render (v : Json) : String :=
  String.ofList v.renderChars

end Catalog
