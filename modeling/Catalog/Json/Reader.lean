import Catalog.Json.Basic

/-!
# Reading JSON

The grammar of JSON texts. A reader of values also refuses nesting as deep as `depthLimit`, numbers
that are worth nothing and strings that are no texts.

## Main definitions

* `Json.parse?`: the tree of a text
* `Json.read?`: the tree of a text that is a value throughout
-/

namespace Catalog

/-- Blanks between the tokens of a JSON text. -/
def isJsonBlank (c : Char) : Bool :=
  c == ' ' || c == '\n' || c == '\t' || c == '\r'

/-- A text without the blanks in front. -/
def skipJsonBlanks (s : List Char) : List Char :=
  s.dropWhile isJsonBlank

/-- Four digits of base sixteen. -/
def takeHex4 : List Char → Option (Nat × List Char)
  | a :: b :: c :: d :: r => do
    let a ← hexValue? a
    let b ← hexValue? b
    let c ← hexValue? c
    let d ← hexValue? d
    return (((a * 16 + b) * 16 + c) * 16 + d, r)
  | _ => none

/-- A character escaped by its code: one unit, or a pair of surrogates. Half of a pair is none. -/
def takeUnicodeEscape (s : List Char) : Option (Option Char × List Char) := do
  let (high, r) ← takeHex4 s
  if 0xD800 ≤ high ∧ high ≤ 0xDBFF then
    match r with
    | '\\' :: 'u' :: t => do
      let (low, t) ← takeHex4 t
      if 0xDC00 ≤ low ∧ low ≤ 0xDFFF then
        return (some (Char.ofNat (0x10000 + (high - 0xD800) * 0x400 + (low - 0xDC00))), t)
      else return (none, r)
    | _ => return (none, r)
  else if 0xDC00 ≤ high ∧ high ≤ 0xDFFF then return (none, r)
  else return (some (Char.ofNat high), r)

/-- Puts a character in front of characters, if it is one and they are. -/
def consChar? (c : Option Char) (s : Option (List Char)) : Option (List Char) :=
  c.bind fun c => s.map (c :: ·)

/-- The characters of a string after its opening quote, if they make a text, and what follows the
closing one. -/
def takeStringBody : Nat → List Char → Option (Option (List Char) × List Char)
  | 0, _ => none
  | fuel + 1, s =>
    match s with
    | [] => none
    | '"' :: r => some (some [], r)
    | '\\' :: e :: r =>
      let go (c : Option Char) (r : List Char) : Option (Option (List Char) × List Char) :=
        (takeStringBody fuel r).map fun (t, r) => (consChar? c t, r)
      match e with
      | '"' => go '"' r
      | '\\' => go '\\' r
      | '/' => go '/' r
      | 'b' => go '\x08' r
      | 'f' => go '\x0c' r
      | 'n' => go '\n' r
      | 'r' => go '\r' r
      | 't' => go '\t' r
      | 'u' => (takeUnicodeEscape r).bind fun (c, r) => go c r
      | _ => none
    | c :: r =>
      if c.toNat < 0x20 || c == '\\' then none
      else (takeStringBody fuel r).map fun (t, r) => (consChar? c t, r)

/-- A string after its opening quote, if it is a text. -/
def takeString (s : List Char) : Option (Option String × List Char) :=
  (takeStringBody (s.length + 1) s).map fun (t, r) => (t.map String.ofList, r)

/-- The value of a string. -/
def Json.ofText? : Option String → Json
  | some s => .string s
  | none => .broken

/-- The value of members. -/
def Json.ofMembers (members : List (Option String × Json)) : Json :=
  match members.mapM fun (k, v) => k.map (·, v) with
  | some l => .object l
  | none => .broken

/-- Digits in front of a text, and the rest. -/
def spanDigits (s : List Char) : List Char × List Char :=
  (s.takeWhile isAsciiDigit, s.dropWhile isAsciiDigit)

/-- The fraction of a number, if it has one. -/
def takeFraction (s : List Char) : Option (Option (List Char) × List Char) :=
  match s with
  | '.' :: r =>
    let (digits, r) := spanDigits r
    if digits.isEmpty then none else some (some digits, r)
  | _ => some (none, s)

/-- The exponent of a number, if it has one. -/
def takeExponent (s : List Char) : Option (Option (Bool × List Char) × List Char) :=
  match s with
  | e :: r =>
    if e == 'e' || e == 'E' then
      let (negative, r) : Bool × List Char := match r with
        | '-' :: r => (true, r)
        | '+' :: r => (false, r)
        | r => (false, r)
      let (digits, r) := spanDigits r
      if digits.isEmpty then none else some (some (negative, digits), r)
    else some (none, s)
  | [] => some (none, s)

/-- A number without its sign. No zero leads other digits. -/
def takeNumberBody (negative : Bool) (s : List Char) : Option (JsonNumber × List Char) := do
  let (whole, r) := spanDigits s
  if whole.isEmpty || (whole.head? == some '0' && 1 < whole.length) then none
  else
    let (fraction, r) ← takeFraction r
    let (exponent, r) ← takeExponent r
    return (⟨negative, whole, fraction, exponent⟩, r)

/-- A word in front of a text. -/
def takeWord (word : String) (s : List Char) : Option (List Char) :=
  if word.toList.isPrefixOf s then some (s.drop word.length) else none

mutual

/-- A value in front of a text, blanks before it included. -/
def takeJson : Nat → List Char → Option (Json × List Char)
  | 0, _ => none
  | fuel + 1, s =>
    match skipJsonBlanks s with
    | [] => none
    | 'n' :: r => (takeWord "ull" r).map (Json.null, ·)
    | 't' :: r => (takeWord "rue" r).map (Json.bool true, ·)
    | 'f' :: r => (takeWord "alse" r).map (Json.bool false, ·)
    | '"' :: r => (takeString r).map fun (t, r) => (.ofText? t, r)
    | '-' :: r => (takeNumberBody true r).map fun (n, r) => (.number n, r)
    | '[' :: r =>
      match skipJsonBlanks r with
      | ']' :: r => some (.array [], r)
      | r => (takeItems fuel r).map fun (l, r) => (.array l, r)
    | '\x7b' :: r =>
      match skipJsonBlanks r with
      | '\x7d' :: r => some (.object [], r)
      | r => (takeMembers fuel r).map fun (l, r) => (.ofMembers l, r)
    | c :: r => (takeNumberBody false (c :: r)).map fun (n, r) => (.number n, r)

/-- The items of an array from the first on, and its closing bracket. -/
def takeItems : Nat → List Char → Option (List Json × List Char)
  | 0, _ => none
  | fuel + 1, s =>
    (takeJson fuel s).bind fun (v, r) =>
      match skipJsonBlanks r with
      | ',' :: r => (takeItems fuel r).map fun (l, r) => (v :: l, r)
      | ']' :: r => some ([v], r)
      | _ => none

/-- The members of an object from the first on, and its closing brace. -/
def takeMembers : Nat → List Char → Option (List (Option String × Json) × List Char)
  | 0, _ => none
  | fuel + 1, s =>
    match skipJsonBlanks s with
    | '"' :: r =>
      (takeString r).bind fun (k, r) =>
        match skipJsonBlanks r with
        | ':' :: r =>
          (takeJson fuel r).bind fun (v, r) =>
            match skipJsonBlanks r with
            | ',' :: r => (takeMembers fuel r).map fun (l, r) => ((k, v) :: l, r)
            | '\x7d' :: r => some ([(k, v)], r)
            | _ => none
        | _ => none
    | _ => none

end

/-- The tree of a text, if the text is one JSON value between blanks. -/
def Json.parse? (s : String) : Option Json :=
  (takeJson (2 * s.length + 2) s.toList).bind fun (v, r) =>
    if (skipJsonBlanks r).isEmpty then some v else none

/-- The nesting that is too deep. -/
def depthLimit : Nat := 128

/-- The tree of a text that is sound throughout and whose nesting is not too deep. -/
def Json.read? (s : String) : Option Json :=
  (Json.parse? s).filter fun v => v.depth < depthLimit && v.isSound

end Catalog
