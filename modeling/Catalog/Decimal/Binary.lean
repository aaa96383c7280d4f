import Catalog.Power

/-!
# Floating-point values as binary fractions

A finite floating-point value is a whole number of units of some power of two. Everything said in
decimal digits about a value is worked out from that form, exactly.

## Main definitions

* `Binary.Value`: a value as sign, mantissa and exponent, or as one of the special values
* `roundHalfEven`: a quotient rounded to a whole number
* `Binary.encode`: the bits of the value nearest to a binary fraction
* `Double`, `Single`: the values of the two formats by their bits
* `Single.widen`, `Double.narrow`: from single precision to a double and back
* `Double.order`: the position of a double in the total order of all doubles
* `Binary.ofFloat`, `narrow`, `nearestUInt64`, `floatOfInt64`: the same on values to compute with

## Implementation notes

Both formats are read by `Binary.ofBits` and written by `Binary.Value.bits`, which differ in the
widths of the fields only. So a single-precision value is found again in the double that it widens
to. What is not a number has a sign in both formats, which arithmetic does not tell but the total
order does; so values that are kept are kept by their bits.
-/

namespace Catalog

/-- The whole number nearest to `num / den`; of two the even one. -/
def roundHalfEven (num den : Nat) : Nat :=
  let q := num / den
  let r := num % den
  if 2 * r < den ∨ (2 * r = den ∧ q % 2 = 0) then q else q + 1

namespace Binary

/-- A floating-point value. A finite one is `mantissa * 2 ^ exponent`; `isEdge` says that the next
value towards zero is only half a unit away. -/
inductive Value where
  | nan (negative : Bool)
  | infinite (negative : Bool)
  | finite (negative : Bool) (mantissa : Nat) (exponent : Int) (isEdge : Bool)

/-- Reads a value from its bits, given the widths of the fraction and the exponent fields. -/
def ofBits (fractionWidth exponentWidth bits : Nat) : Value :=
  let fraction := bits % 2 ^ fractionWidth
  let exponent := bits / 2 ^ fractionWidth % 2 ^ exponentWidth
  let negative := bits / 2 ^ (fractionWidth + exponentWidth) % 2 == 1
  let least : Int := 2 - 2 ^ (exponentWidth - 1) - fractionWidth
  if exponent = 2 ^ exponentWidth - 1 then
    if fraction = 0 then .infinite negative else .nan negative
  else if exponent = 0 then .finite negative fraction least false
  else
    .finite negative (2 ^ fractionWidth + fraction) (least + exponent - 1)
      (fraction == 0 && exponent != 1)

/-- The binary form of a double. -/
def ofFloat (x : Float) : Value :=
  ofBits 52 11 x.toBits.toNat

/-- The bits of the value nearest to `mantissa * 2 ^ exponent`; of two the even one. What is too
great is infinite. -/
def encode (fractionWidth exponentWidth : Nat) (negative : Bool) (mantissa : Nat) (exponent : Int) :
    Nat :=
  let least : Int := 2 - 2 ^ (exponentWidth - 1) - fractionWidth
  let unit := max least (exponent + mantissa.log2 - fractionWidth)
  let units :=
    if unit ≤ exponent then mantissa * 2 ^ (exponent - unit).toNat
    else roundHalfEven mantissa (2 ^ (unit - exponent).toNat)
  let magnitude :=
    if mantissa = 0 then 0
    else min ((unit - least).toNat * 2 ^ fractionWidth + units)
      ((2 ^ exponentWidth - 1) * 2 ^ fractionWidth)
  if negative then 2 ^ (fractionWidth + exponentWidth) + magnitude else magnitude

/-- The bits of the value of a format that is nearest to a value. -/
def Value.bits (fractionWidth exponentWidth : Nat) (v : Value) : Nat :=
  let signed (negative : Bool) (magnitude : Nat) : Nat :=
    if negative then 2 ^ (fractionWidth + exponentWidth) + magnitude else magnitude
  match v with
  | .nan negative => signed negative ((2 ^ (exponentWidth + 1) - 1) * 2 ^ (fractionWidth - 1))
  | .infinite negative => signed negative ((2 ^ exponentWidth - 1) * 2 ^ fractionWidth)
  | .finite negative m e _ => encode fractionWidth exponentWidth negative m e

/-- The whole number nearest to the amount of a value, the greater of two, or `bound` if there is
none below it. What is not a number counts as zero. -/
def Value.nearestNat (bound : Nat) : Value → Nat
  | .nan _ => 0
  | .infinite _ => bound
  | .finite _ m e _ =>
    if 0 ≤ e then min bound (m * 2 ^ e.toNat)
    else min bound ((2 * m + 2 ^ e.natAbs) / 2 ^ (e.natAbs + 1))

end Binary

/-- A double by its bits. -/
structure Double where
  bits : UInt64
  deriving DecidableEq, Inhabited, Repr

/-- A single-precision value by its bits. -/
structure Single where
  bits : UInt32
  deriving DecidableEq, Inhabited, Repr

namespace Double

/-- The double nearest to a value. -/
def ofValue (v : Binary.Value) : Double := ⟨UInt64.ofNat (v.bits 52 11)⟩

/-- The value of a double. -/
def value (x : Double) : Binary.Value := Binary.ofBits 52 11 x.bits.toNat

/-- A double that was computed. -/
def ofFloat (x : Float) : Double := ⟨x.toBits⟩

/-- The double to compute with. -/
def toFloat (x : Double) : Float := Float.ofBits x.bits

/-- Where a double stands in the total order: negative values below positive ones, the zeros apart
and everything that is not a number at the ends. -/
def order (x : Double) : Int :=
  let b := x.bits.toNat
  if b < 2 ^ (63 : Nat) then b else 2 ^ (63 : Nat) - 1 - (b : Int)

end Double

namespace Single

/-- The single-precision value nearest to a value. -/
def ofValue (v : Binary.Value) : Single := ⟨UInt32.ofNat (v.bits 23 8)⟩

/-- The value of a single-precision value. -/
def value (x : Single) : Binary.Value := Binary.ofBits 23 8 x.bits.toNat

/-- The single-precision value to compute with. -/
def toFloat32 (x : Single) : Float32 := Float32.ofBits x.bits

/-- The double that is a single-precision value. -/
def widen (x : Single) : Double := .ofValue x.value

end Single

/-- The single-precision value nearest to a double. -/
def Double.narrow (x : Double) : Single := .ofValue x.value

/-- The single-precision value nearest to a double that was computed. -/
def narrow (x : Float) : Float32 := (Double.ofFloat x).narrow.toFloat32

/-- The number nearest to a double, the greater of two; a negative double counts as zero. -/
def nearestUInt64 (x : Float) : UInt64 :=
  if x < 0 then 0 else UInt64.ofNat ((Binary.ofFloat x).nearestNat (2 ^ (64 : Nat) - 1))

/-- An integer as a double. -/
def floatOfInt64 (n : Int64) : Float :=
  if n < 0 then -(-n).toUInt64.toFloat else n.toUInt64.toFloat

end Catalog
