import Catalog.Decimal.Binary

/-!
# Reading numbers

The grammars of the numbers that appear as texts, and the values they denote. A decimal is rounded
correctly to the format it is read into; an integer that does not fit says on which side it is.

## Main definitions

* `IntError`, `readInt64`, `readUInt64`: integers
* `FloatError`, `readDouble`, `readSingle`: decimals, with or without an exponent
-/

namespace Catalog

/-- Whether a character is one of the ten ASCII digits. -/
def isAsciiDigit (c : Char) : Bool :=
  '0' ≤ c && c ≤ '9'

/-- The value of a digit of base sixteen. -/
def hexValue? (c : Char) : Option Nat :=
  if '0' ≤ c ∧ c ≤ '9' then some (c.toNat - '0'.toNat)
  else if 'a' ≤ c ∧ c ≤ 'f' then some (c.toNat - 'a'.toNat + 10)
  else if 'A' ≤ c ∧ c ≤ 'F' then some (c.toNat - 'A'.toNat + 10)
  else none

/-- The number that digits denote. -/
def digitsValue (s : List Char) : Nat :=
  s.foldl (fun n c => 10 * n + (c.toNat - '0'.toNat)) 0

/-- Why a text is no integer of a type. -/
inductive IntError where
  | empty
  | invalidDigit
  | tooLarge
  | tooSmall
  deriving DecidableEq, Repr

/-- The text of an error. -/
def IntError.message : IntError → String
  | .empty => "cannot parse integer from empty string"
  | .invalidDigit => "invalid digit found in string"
  | .tooLarge => "number too large to fit in target type"
  | .tooSmall => "number too small to fit in target type"

/-- An integer between two bounds: digits after an optional sign, a minus only where negative
numbers are in bounds. Digits that lead out of bounds are reported before what follows them. -/
def readBounded (least greatest : Int) (s : String) : Except IntError Int :=
  let (negative, digits) : Bool × List Char := match s.toList with
    | '+' :: c :: r => (false, c :: r)
    | '-' :: c :: r => if least < 0 then (true, c :: r) else (false, '-' :: c :: r)
    | r => (false, r)
  let run := digits.takeWhile isAsciiDigit
  let n : Int := if negative then -(digitsValue run : Int) else digitsValue run
  if s.isEmpty then .error .empty
  else if greatest < n then .error .tooLarge
  else if n < least then .error .tooSmall
  else if run.length < digits.length then .error .invalidDigit
  else .ok n

/-- A signed 64-bit integer. -/
def readInt64 (s : String) : Except IntError Int64 :=
  (readBounded (-2 ^ (63 : Nat)) (2 ^ (63 : Nat) - 1) s).map Int64.ofInt

/-- An unsigned 64-bit integer. -/
def readUInt64 (s : String) : Except IntError UInt64 :=
  (readBounded 0 (2 ^ (64 : Nat) - 1) s).map fun n => n.toNat.toUInt64

/-- Why a text is no decimal. -/
inductive FloatError where
  | empty
  | invalid
  deriving DecidableEq, Repr

/-- The text of an error. -/
def FloatError.message : FloatError → String
  | .empty => "cannot parse float from empty string"
  | .invalid => "invalid float literal"

/-- A decimal as it was written: `digits * 10 ^ exponent`, or a special value by name. -/
inductive Decimal where
  | finite (digits : Nat) (exponent : Int)
  | infinite
  | nan
  deriving DecidableEq, Repr

/-- The exponent part of a decimal, which may be missing. -/
def readExponent (s : List Char) : Option Int :=
  match s with
  | [] => some 0
  | e :: r =>
    if e == 'e' || e == 'E' then
      let (negative, digits) : Bool × List Char := match r with
        | '+' :: t => (false, t)
        | '-' :: t => (true, t)
        | t => (false, t)
      if digits.isEmpty || !digits.all isAsciiDigit then none
      else some (if negative then -(digitsValue digits : Int) else digitsValue digits)
    else none

/-- A decimal without a sign: digits with a point among, before or after them and an exponent, or
a name. -/
def readUnsigned (s : List Char) : Option Decimal :=
  let lower := s.map Char.toLower
  if lower = "inf".toList || lower = "infinity".toList then some .infinite
  else if lower = "nan".toList then some .nan
  else
    let whole := s.takeWhile isAsciiDigit
    let rest := s.drop whole.length
    let (fraction, rest) : List Char × List Char := match rest with
      | '.' :: r => (r.takeWhile isAsciiDigit, r.dropWhile isAsciiDigit)
      | r => ([], r)
    if whole.isEmpty && fraction.isEmpty then none
    else (readExponent rest).map fun e =>
      .finite (digitsValue (whole ++ fraction)) (e - fraction.length)

/-- A decimal with its sign. -/
def readDecimal (s : String) : Except FloatError (Bool × Decimal) :=
  if s.isEmpty then .error .empty
  else
    let (negative, r) : Bool × List Char := match s.toList with
      | '-' :: r => (true, r)
      | '+' :: r => (false, r)
      | r => (false, r)
    match readUnsigned r with
    | some d => .ok (negative, d)
    | none => .error .invalid

/-- Digits and an exponent beyond which every format of doubles ends. -/
def decimalReach : Nat := 400

/-- Cuts the exponent of a decimal to what can matter, so that no power of ten grows without
bound. -/
def clampExponent (digits : Nat) (exponent : Int) : Int :=
  let reach : Int := decimalReach + digits.log2 + 1
  max (-reach) (min reach exponent)

/-- The double nearest to a decimal with a sign. -/
def Decimal.toDouble (negative : Bool) : Decimal → Double
  | .finite digits exponent =>
    let e := clampExponent digits exponent
    let x := Float.ofScientific digits (e < 0) e.natAbs
    .ofFloat (if negative then -x else x)
  | .infinite => .ofValue (.infinite negative)
  | .nan => .ofValue (.nan negative)

/-- The single-precision value nearest to a decimal with a sign. -/
def Decimal.toSingle (negative : Bool) : Decimal → Single
  | .finite digits exponent =>
    let e := clampExponent digits exponent
    let x := Float32.ofScientific digits (e < 0) e.natAbs
    ⟨(if negative then -x else x).toBits⟩
  | .infinite => .ofValue (.infinite negative)
  | .nan => .ofValue (.nan negative)

/-- A double from its text. -/
def readDouble (s : String) : Except FloatError Double := do
  let (negative, d) ← readDecimal s
  return d.toDouble negative

/-- A single-precision value from its text. -/
def readSingle (s : String) : Except FloatError Single := do
  let (negative, d) ← readDecimal s
  return d.toSingle negative

end Catalog
