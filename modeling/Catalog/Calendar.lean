import Catalog.Decimal.Reader
import Catalog.Text.Blank

/-!
# Dates and times of day

A moment of the proleptic Gregorian calendar, without a time zone. A leap second is the last second
of its minute with a thousand million nanoseconds or more. The text of a moment has one number
after another, in two digits each and four for a year of four digits, so that within such years the
order of texts is the order in time.

## Main definitions

* `Moment`: a moment that exists
* `Moment.stamp`: its text, `yyyyMMddHHmmss`
* `Moment.ofStamp?`: the moment of a text, which may have blanks before each number
* `Moment.ofLiteral?`: the moment of a text in one of three layouts
-/

namespace Catalog

/-- The first year of the calendar. -/
def leastYear : Int := -262143

/-- The last year of the calendar. -/
def greatestYear : Int := 262142

/-- Whether February has 29 days. -/
def isLeapYear (year : Int) : Bool :=
  year % 4 == 0 && (year % 100 != 0 || year % 400 == 0)

/-- The number of days of a month, counted from one. -/
def daysInMonth (year : Int) (month : Nat) : Nat :=
  if month = 2 then (if isLeapYear year then 29 else 28)
  else if month = 4 ∨ month = 6 ∨ month = 9 ∨ month = 11 then 30
  else 31

/-- The number of nanoseconds of a second. -/
def nanosPerSecond : Nat := 1000000000

/-- A date and a time of day. -/
structure Moment where
  year : Int
  month : Nat
  day : Nat
  hour : Nat
  minute : Nat
  second : Nat
  nano : Nat
  year_mem : leastYear ≤ year ∧ year ≤ greatestYear
  month_mem : 1 ≤ month ∧ month ≤ 12
  day_mem : 1 ≤ day ∧ day ≤ daysInMonth year month
  time_lt : hour < 24 ∧ minute < 60 ∧ second < 60
  nano_lt : nano < 2 * nanosPerSecond
  deriving DecidableEq

/-- The moment with the given parts, if there is one. -/
def Moment.ofParts? (year : Int) (month day hour minute second nano : Nat) : Option Moment :=
  if h : (leastYear ≤ year ∧ year ≤ greatestYear) ∧ (1 ≤ month ∧ month ≤ 12) ∧
      (1 ≤ day ∧ day ≤ daysInMonth year month) ∧ (hour < 24 ∧ minute < 60 ∧ second < 60) ∧
      nano < 2 * nanosPerSecond then
    some ⟨year, month, day, hour, minute, second, nano, h.1, h.2.1, h.2.2.1, h.2.2.2.1, h.2.2.2.2⟩
  else none

/-- The beginning of the year 1970. -/
def Moment.epoch : Moment :=
  ⟨1970, 1, 1, 0, 0, 0, 0, by decide, by decide, by decide, by decide, by decide⟩

/-- The moment at the beginning of its second. -/
def Moment.truncate (m : Moment) : Moment :=
  { m with nano := 0, nano_lt := by decide }

/-- The second that is written: a leap second counts as second 60. -/
def Moment.writtenSecond (m : Moment) : Nat :=
  m.second + m.nano / nanosPerSecond

/-- A number in at least so many digits. -/
def paddedDigits (width n : Nat) : List Char :=
  let s := (toString n).toList
  List.replicate (width - s.length) '0' ++ s

/-- A year in four digits; years of more digits and negative ones carry a sign. -/
def yearDigits (year : Int) : List Char :=
  if 0 ≤ year ∧ year ≤ 9999 then paddedDigits 4 year.toNat
  else (if year < 0 then '-' else '+') :: paddedDigits 4 year.natAbs

/-- The text of a moment. -/
def Moment.stamp (m : Moment) : String :=
  String.ofList (yearDigits m.year ++ paddedDigits 2 m.month ++ paddedDigits 2 m.day ++
    paddedDigits 2 m.hour ++ paddedDigits 2 m.minute ++ paddedDigits 2 m.writtenSecond)

/-- At least one digit and at most `width`, after blanks. -/
def takeNumber (width : Nat) (s : List Char) : Option (Nat × List Char) :=
  let r := trimStart s
  let digits := (r.take width).takeWhile isAsciiDigit
  if digits.isEmpty then none else some (digitsValue digits, r.drop digits.length)

/-- A year, after blanks: up to four digits, or any number of them after a sign. -/
def takeYear (s : List Char) : Option (Int × List Char) :=
  let signed (r : List Char) : Option (Nat × List Char) :=
    let digits := r.takeWhile isAsciiDigit
    if digits.isEmpty then none else some (digitsValue digits, r.drop digits.length)
  match trimStart s with
  | '-' :: r => (signed r).map fun (n, t) => (-(n : Int), t)
  | '+' :: r => (signed r).map fun (n, t) => ((n : Int), t)
  | r => (takeNumber 4 r).map fun (n, t) => ((n : Int), t)

/-- What stands between two numbers of a date. -/
inductive Separator where
  | nothing
  | mark (c : Char)
  | blanks
  deriving DecidableEq, Repr

/-- Reads a separator. -/
def Separator.take? : Separator → List Char → Option (List Char)
  | .nothing, s => some s
  | .mark c, d :: r => if c == d then some r else none
  | .mark _, [] => none
  | .blanks, s => some (trimStart s)

/-- The separators of a layout, in front of month, day, hour, minute and second. -/
structure Layout where
  beforeMonth : Separator
  beforeDay : Separator
  beforeHour : Separator
  beforeMinute : Separator
  beforeSecond : Separator

/-- The layout of stored dates. -/
def Layout.stamp : Layout :=
  ⟨.nothing, .nothing, .nothing, .nothing, .nothing⟩

/-- A date and a time with a `T` between them. -/
def Layout.withT : Layout :=
  ⟨.mark '-', .mark '-', .mark 'T', .mark ':', .mark ':'⟩

/-- A date and a time with blanks between them. -/
def Layout.withBlanks : Layout :=
  ⟨.mark '-', .mark '-', .blanks, .mark ':', .mark ':'⟩

/-- A separator and a number of one or two digits. -/
def takePart (sep : Separator) (s : List Char) : Option (Nat × List Char) :=
  (sep.take? s).bind (takeNumber 2)

/-- The moment of a text in some layout. Second 60 is a leap second. -/
def Moment.read? (layout : Layout) (s : String) : Option Moment := do
  let (year, r) ← takeYear s.toList
  let (month, r) ← takePart layout.beforeMonth r
  let (day, r) ← takePart layout.beforeDay r
  let (hour, r) ← takePart layout.beforeHour r
  let (minute, r) ← takePart layout.beforeMinute r
  let (second, r) ← takePart layout.beforeSecond r
  if r.isEmpty then
    if second = 60 then Moment.ofParts? year month day hour minute 59 nanosPerSecond
    else Moment.ofParts? year month day hour minute second 0
  else none

/-- The moment of a stored date. -/
def Moment.ofStamp? (s : String) : Option Moment :=
  Moment.read? Layout.stamp s

/-- The moment of a date in a query. -/
def Moment.ofLiteral? (s : String) : Option Moment :=
  (Moment.ofStamp? s).or ((Moment.read? Layout.withT s).or (Moment.read? Layout.withBlanks s))

/-- The parts of a moment, the largest first. -/
def Moment.parts (m : Moment) : List Int :=
  [m.year, m.month, m.day, m.hour, m.minute, m.second, m.nano]

end Catalog
