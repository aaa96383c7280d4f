import Catalog.Decimal.Binary

/-!
# Shortest decimal texts

A value is written with the fewest decimal digits that no other value is nearer to, and of those
digits with the nearest ones. Two layouts use them: a positional one without an exponent, and one
that always shows that the value is no integer type and turns to an exponent far from one.

## Main definitions

* `shortestDigits`: the digits and their decimal exponent
* `Double.format`, `Single.format`, `formatFloat`: the positional layout
* `Double.formatPointed`: the layout with a fraction or an exponent
-/

namespace Catalog

open Binary

/-- `digits * 10 ^ exponent`. -/
structure Digits where
  digits : Nat
  exponent : Int

/-- A positive rational `num / den` in units of `10 ^ exponent`, as numerator and denominator. -/
def scaled (num den : Nat) (exponent : Int) : Nat × Nat :=
  if 0 ≤ exponent then (num, den * 10 ^ exponent.toNat) else (num * 10 ^ (-exponent).toNat, den)

/-- Moves final zeros into the exponent. -/
def stripZeros : Nat → Digits → Digits
  | 0, d => d
  | fuel + 1, d =>
    if d.digits ≠ 0 ∧ d.digits % 10 = 0 then stripZeros fuel ⟨d.digits / 10, d.exponent + 1⟩ else d

/-- The point of a grid of decimals that reads back as the value, given the value `v`, the ends
`lo` and `hi` of what reads back as it, and whether the ends belong to that. Of two points the
nearer is taken, and the upper one in the middle. All are quotients over `den`, in units of the
grid. -/
def gridPoint (v lo hi den : Nat) (closed : Bool) : Option Nat :=
  let below := v / den
  let fits (n : Nat) : Bool :=
    if closed then lo ≤ n * den && n * den ≤ hi else lo < n * den && n * den < hi
  let nearerBelow : Bool := 2 * (v % den) < den
  if fits below && (nearerBelow || !fits (below + 1)) then some below
  else if fits (below + 1) then some (below + 1)
  else none

/-- Tries the grids from coarse to fine. -/
def searchGrid (v lo hi den : Nat) (closed : Bool) : Nat → Int → Option Digits
  | 0, _ => none
  | fuel + 1, exponent =>
    let s (n : Nat) : Nat := (scaled n den exponent).1
    let d := (scaled v den exponent).2
    match gridPoint (s v) (s lo) (s hi) d closed with
    | some n => some ⟨n, exponent⟩
    | none => searchGrid v lo hi den closed fuel (exponent - 1)

/-- An exponent of ten whose power is above a positive rational: at most two too large. -/
def decimalCeiling (num den : Nat) : Int :=
  (((num.log2 : Int) + 1 - den.log2) * 30103) / 100000 + 1

/-- The shortest digits of `mantissa * 2 ^ exponent`, a positive value. -/
def shortestDigits (mantissa : Nat) (exponent : Int) (isEdge : Bool) : Digits :=
  let unit : Nat := if 2 ≤ exponent then 2 ^ (exponent - 2).toNat else 1
  let den : Nat := if 2 ≤ exponent then 1 else 2 ^ (2 - exponent).toNat
  let v := 4 * mantissa * unit
  let lo := (4 * mantissa - (if isEdge then 1 else 2)) * unit
  let hi := (4 * mantissa + 2) * unit
  let closed := mantissa % 2 == 0
  match searchGrid v lo hi den closed 25 (decimalCeiling v den) with
  | some d => stripZeros 400 d
  | none => ⟨v / den, 0⟩

/-- Digits with a point where it belongs and no exponent. -/
def positional (d : Digits) : String :=
  let s := toString d.digits
  if 0 ≤ d.exponent then s ++ String.ofList (List.replicate d.exponent.toNat '0')
  else
    let places := (-d.exponent).toNat
    let padded := List.replicate (places + 1 - s.length) '0' ++ s.toList
    String.ofList (padded.take (padded.length - places)) ++ "." ++
      String.ofList (padded.drop (padded.length - places))

/-- A minus sign, if asked for. -/
def withSign (negative : Bool) (s : String) : String :=
  if negative then "-" ++ s else s

/-- The positional text of a value. -/
def Binary.Value.format : Binary.Value → String
  | .nan _ => "NaN"
  | .infinite negative => withSign negative "inf"
  | .finite negative 0 _ _ => withSign negative "0"
  | .finite negative m e edge => withSign negative (positional (shortestDigits m e edge))

/-- The positional text of a double: `2`, `-0`, `0.1`, `NaN`, `inf`. -/
def Double.format (x : Double) : String :=
  x.value.format

/-- The positional text of a single-precision value. -/
def Single.format (x : Single) : String :=
  x.value.format

/-- The positional text of a double that was computed. -/
def formatFloat (x : Float) : String :=
  (Double.ofFloat x).format

/-- Digits in front of a power of ten: one of them before the point. -/
def scientific (d : Digits) : String :=
  let s := (toString d.digits).toList
  let exponent := d.exponent + (s.length - 1 : Nat)
  let fraction := if s.length ≤ 1 then [] else '.' :: s.tail
  String.ofList (s.take 1 ++ fraction) ++ "e" ++ toString exponent

/-- The text of a double that keeps a fraction, `3.0`, and turns to an exponent below `1e-4` and
from `1e16` on. -/
def Double.formatPointed (x : Double) : String :=
  match x.value with
  | .finite negative 0 _ _ => withSign negative "0.0"
  | .finite negative m e edge =>
    let d := shortestDigits m e edge
    let magnitude := d.exponent + ((toString d.digits).length : Int)
    if -3 ≤ magnitude && magnitude ≤ 16 then
      let s := positional d
      withSign negative (if s.contains '.' then s else s ++ ".0")
    else withSign negative (scientific d)
  | v => v.format

end Catalog
