import Catalog.Calendar
import Catalog.Decimal.Reader
import Catalog.Text.Blank
import Catalog.Toml.Basic

/-!
# Numbers, dates and words of TOML

The values that are written without quotes and brackets. Underscores may stand between two digits of
a number. Dates and times of day are kept as texts in one normal form.

## Main definitions

* `takeNumber`: integers of four bases and decimals
* `takeMoment`: dates, times of day, and dates with times
* `takeScalar`: any of them, or a truth value
-/

namespace Catalog.Toml

/-! ### Numbers -/

/-- Digits without the underscores, each of which has to stand between two digits. -/
def takeDigits (isDigit : Char → Bool) (s : List Char) : Option (List Char × List Char) :=
  let run := s.takeWhile fun c => isDigit c || c == '_'
  let groups := pieces (· == '_') run
  if groups.any List.isEmpty then none else some (groups.flatten, s.drop run.length)

/-- A number behind the mark of its base. -/
def takeRadix (base : Nat) (s : List Char) : Option (Value × List Char) := do
  let (digits, r) ← takeDigits (fun c => (hexValue? c).any (· < base)) s
  let n := (← digits.mapM hexValue?).foldl (fun n d => base * n + d) 0
  if n < 2 ^ (63 : Nat) then return (.int (Int64.ofInt n), r) else none

/-- The sign of a number. -/
def takeSign : List Char → List Char × List Char
  | '-' :: r => (['-'], r)
  | '+' :: r => ([], r)
  | r => ([], r)

/-- The digits before the point. No zero leads other digits. -/
def takeWhole : List Char → Option (List Char × List Char)
  | '0' :: r => some (['0'], r)
  | r => takeDigits isAsciiDigit r

/-- The fraction of a decimal with its point, or nothing. -/
def takeFraction : List Char → Option (List Char × List Char)
  | '.' :: r => (takeDigits isAsciiDigit r).map fun (digits, r) => ('.' :: digits, r)
  | r => some ([], r)

/-- The exponent of a decimal with its mark, or nothing. -/
def takeExponent (s : List Char) : Option (List Char × List Char) :=
  match s with
  | e :: r =>
    if e == 'e' || e == 'E' then
      let (sign, r) := takeSign r
      (takeDigits isAsciiDigit r).map fun (digits, r) => ('e' :: sign ++ digits, r)
    else some ([], s)
  | [] => some ([], [])

/-- A number to the base ten. It is an integer without a fraction and an exponent. A decimal that is
too great is none, but one may be too small. -/
def takeDecimal (s : List Char) : Option (Value × List Char) := do
  let (sign, r) := takeSign s
  let (whole, r) ← takeWhole r
  let (fraction, r) ← takeFraction r
  let (exponent, r) ← takeExponent r
  let text := String.ofList (sign ++ whole ++ fraction ++ exponent)
  if fraction.isEmpty && exponent.isEmpty then
    let n ← (readInt64 text).toOption
    return (.int n, r)
  else
    let x ← (readDouble text).toOption
    if x = .ofValue (.infinite false) then none else return (.float x.toFloat, r)

/-- The text behind a word. -/
def takeName (word : String) (s : List Char) : Option (List Char) :=
  if word.toList.isPrefixOf s then some (s.drop word.length) else none

/-- A number, which may be infinite or none. -/
def takeNumber (s : List Char) : Option (Value × List Char) :=
  match s with
  | '0' :: 'x' :: r => takeRadix 16 r
  | '0' :: 'o' :: r => takeRadix 8 r
  | '0' :: 'b' :: r => takeRadix 2 r
  | _ =>
    let (sign, r) := takeSign s
    match takeName "inf" r, takeName "nan" r with
    | some r, _ => some (.float (if sign.isEmpty then 1 / 0 else -1 / 0), r)
    | _, some r => some (.float (0 / 0), r)
    | none, none => takeDecimal s

/-! ### Dates and times of day -/

/-- So many digits of a number between two bounds. -/
def takeBounded (count least greatest : Nat) (s : List Char) : Option (Nat × List Char) :=
  let digits := (s.take count).takeWhile isAsciiDigit
  let n := digitsValue digits
  if digits.length = count ∧ least ≤ n ∧ n ≤ greatest then some (n, s.drop count) else none

/-- The text behind a character. -/
def takeMark (c : Char) : List Char → Option (List Char)
  | d :: r => if d == c then some r else none
  | [] => none

/-- A date: year, month and day. -/
def takeDate (s : List Char) : Option (List Char × List Char) := do
  let (year, r) ← takeBounded 4 0 9999 s
  let (month, r) ← takeBounded 2 1 12 (← takeMark '-' r)
  let (day, r) ← takeBounded 2 1 (daysInMonth year month) (← takeMark '-' r)
  return (paddedDigits 4 year ++ '-' :: paddedDigits 2 month ++ '-' :: paddedDigits 2 day, r)

/-- The number of digits of a second that are kept. -/
def keptPlaces : Nat := 9

/-- The fraction of a second with its point, or nothing: digits that are kept without final
zeros. -/
def takePlaces (s : List Char) : List Char × List Char :=
  match s with
  | '.' :: r =>
    let digits := r.takeWhile isAsciiDigit
    let kept := ((digits.take keptPlaces).reverse.dropWhile (· == '0')).reverse
    if digits.isEmpty then ([], s)
    else (if kept.isEmpty then [] else '.' :: kept, r.drop digits.length)
  | r => ([], r)

/-- A time of day: hour, minute and second. -/
def takeTime (s : List Char) : Option (List Char × List Char) := do
  let (hour, r) ← takeBounded 2 0 23 s
  let (minute, r) ← takeBounded 2 0 59 (← takeMark ':' r)
  let (second, r) ← takeBounded 2 0 60 (← takeMark ':' r)
  let (places, r) := takePlaces r
  return (paddedDigits 2 hour ++ ':' :: paddedDigits 2 minute ++ ':' :: paddedDigits 2 second ++
    places, r)

/-- The distance of a time from universal time. -/
def takeOffset (s : List Char) : Option (List Char × List Char) := do
  match s with
  | 'Z' :: r => return (['Z'], r)
  | 'z' :: r => return (['Z'], r)
  | sign :: r =>
    if sign == '+' || sign == '-' then
      let (hour, r) ← takeBounded 2 0 23 r
      let (minute, r) ← takeBounded 2 0 59 (← takeMark ':' r)
      let sign := if hour = 0 ∧ minute = 0 then '+' else sign
      return (sign :: paddedDigits 2 hour ++ ':' :: paddedDigits 2 minute, r)
    else none
  | [] => none

/-- A date, a time of day, or both with a mark or a blank between them and a distance from universal
time behind them. -/
def takeMoment (s : List Char) : Option (List Char × List Char) :=
  match takeDate s with
  | none => takeTime s
  | some (date, r) =>
    let time := match r with
      | c :: r => if c == 'T' || c == 't' || c == ' ' then takeTime r else none
      | [] => none
    match time with
    | none => some (date, r)
    | some (time, r) =>
      let (offset, r) := (takeOffset r).getD ([], r)
      some (date ++ 'T' :: time ++ offset, r)

/-! ### Words -/

/-- A truth value, a date or a number. -/
def takeScalar (s : List Char) : Option (Value × List Char) :=
  match takeName "true" s, takeName "false" s, takeMoment s with
  | some r, _, _ => some (.bool true, r)
  | _, some r, _ => some (.bool false, r)
  | _, _, some (text, r) => some (.moment (String.ofList text), r)
  | none, none, none => takeNumber s

end Catalog.Toml
