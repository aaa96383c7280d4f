import Catalog.Proofs.Calendar.Order
import Mathlib.Data.List.DropRight

/-!
# Texts that are read as dates

A text of fourteen digits is read column by column, and what is read is written as that text again.
The reader of stored dates takes more than these: each number may have blanks in front of it, the
year may have a sign, and a number is short if blanks or the end of the text come behind it. So a
text without a blank that is read has fourteen digits, or thirteen.

## Main definitions

* `IsDateText`: a text of fourteen digits
* `IsDateTime`: whether six numbers are a date and a time of day
* `SpellsNumber`, `SpellsYear`, `SpellsDate`: how a text may spell a number, a year and a date

## Main results

* `Moment.ofStamp?_eq_some_iff`: what is read as a stored date
* `Moment.isSome_ofStamp?_iff_columns`: which texts of fourteen digits are read
* `Moment.stamp_eq_iff`: what is read is written again as it was only if it has fourteen digits
* `SpellsDate.isDateText`: how dates are spelled without blanks
-/

namespace Catalog

/-- A text of fourteen digits. -/
def IsDateText (s : String) : Prop :=
  s.toList.length = 14 ∧ ∀ c ∈ s.toList, isAsciiDigit c = true

instance (s : String) : Decidable (IsDateText s) :=
  inferInstanceAs (Decidable (_ ∧ _))

/-- Whether six numbers are a date and a time of day. Second 60 is a leap second. -/
structure IsDateTime (year : Int) (month day hour minute second : Nat) : Prop where
  year_mem : leastYear ≤ year ∧ year ≤ greatestYear
  month_mem : 1 ≤ month ∧ month ≤ 12
  day_mem : 1 ≤ day ∧ day ≤ daysInMonth year month
  hour_lt : hour < 24
  minute_lt : minute < 60
  second_le : second ≤ 60

/-! ### Digits of one width -/

/-- Digits of one width are known from their number. -/
theorem eq_of_digitsValue_eq {as bs : List Char} (has : ∀ c ∈ as, isAsciiDigit c = true)
    (hbs : ∀ c ∈ bs, isAsciiDigit c = true) (hlength : as.length = bs.length)
    (h : digitsValue as = digitsValue bs) : as = bs := by
  have hcompare := compare_map_digits keepsDigits_id has hbs hlength
  rw [List.map_id', List.map_id', h, Nat.compare_eq_eq.mpr rfl] at hcompare
  exact Std.LawfulEqOrd.eq_of_compare hcompare

/-- Digits are those of their number. -/
theorem paddedDigits_digitsValue {width : Nat} {ds : List Char} (hw : 0 < width)
    (hds : ∀ c ∈ ds, isAsciiDigit c = true) (hlength : ds.length = width) :
    paddedDigits width (digitsValue ds) = ds := by
  have hlt : digitsValue ds < 10 ^ width := hlength ▸ digitsValue_lt hds
  exact eq_of_digitsValue_eq (fun _ => isAsciiDigit_of_mem_paddedDigits) hds
    ((length_paddedDigits hw hlt).trans hlength.symm) (digitsValue_paddedDigits _ _)

/-! ### Numbers -/

/-- Blanks and digits at the front of a text, as many digits as there are or as are read at most,
and what is left. -/
structure SpellsNumber (width : Nat) (s blanks digits rest : List Char) : Prop where
  eq : s = blanks ++ (digits ++ rest)
  isBlank : ∀ c ∈ blanks, isBlank c = true
  isAsciiDigit : ∀ c ∈ digits, isAsciiDigit c = true
  ne_nil : digits ≠ []
  length_le : digits.length ≤ width
  stops : digits.length < width → ∀ c ∈ rest.head?, Catalog.isAsciiDigit c = false

namespace SpellsNumber

variable {width width' : Nat} {s blanks digits rest blanks' digits' rest' : List Char}

theorem trimStart_eq (h : SpellsNumber width s blanks digits rest) :
    trimStart s = digits ++ rest := by
  obtain ⟨c, ds, rfl⟩ := List.exists_cons_of_ne_nil h.ne_nil
  rw [h.eq, trimStart, List.dropWhile_append_of_pos h.isBlank, List.cons_append]
  exact trimStart_cons_of_isAsciiDigit (h.isAsciiDigit c (List.mem_cons_self ..)) _

theorem takeWhile_eq (h : SpellsNumber width s blanks digits rest) :
    ((digits ++ rest).take width).takeWhile Catalog.isAsciiDigit = digits := by
  rw [List.take_append, List.take_of_length_le h.length_le,
    List.takeWhile_append_of_pos h.isAsciiDigit, List.append_right_eq_self]
  rcases h.length_le.eq_or_lt with heq | hlt
  · rw [heq, Nat.sub_self, List.take_zero, List.takeWhile_nil]
  · cases rest with
    | nil => rw [List.take_nil, List.takeWhile_nil]
    | cons c r =>
      obtain ⟨k, hk⟩ := Nat.exists_eq_add_of_lt hlt
      rw [hk, Nat.add_assoc, Nat.add_sub_cancel_left, List.take_succ_cons,
        List.takeWhile_cons_of_neg (by rw [h.stops hlt c rfl]; exact Bool.false_ne_true)]

/-- The blanks are all there are. -/
theorem of_trimStart (hne : ((trimStart s).take width).takeWhile Catalog.isAsciiDigit ≠ []) :
    ∃ blanks, SpellsNumber width s blanks
      (((trimStart s).take width).takeWhile Catalog.isAsciiDigit)
      ((trimStart s).drop (((trimStart s).take width).takeWhile Catalog.isAsciiDigit).length) := by
  generalize htrim : trimStart s = t at hne ⊢
  generalize hdigits : (t.take width).takeWhile Catalog.isAsciiDigit = digits at hne ⊢
  have hfront : digits <+: t.take width := hdigits ▸ List.takeWhile_prefix _
  have heq : digits ++ t.drop digits.length = t :=
    List.prefix_iff_eq_append.mp (hfront.trans (List.take_prefix width t))
  have hdigit : ∀ c ∈ digits, Catalog.isAsciiDigit c = true := fun c hc =>
    List.mem_takeWhile_imp (hdigits ▸ hc)
  refine ⟨s.takeWhile Catalog.isBlank, ?_, fun c => List.mem_takeWhile_imp, hdigit, hne,
    hfront.length_le.trans (List.length_take_le width t), fun hlt c hc => ?_⟩
  · rw [heq, ← htrim, trimStart, List.takeWhile_append_dropWhile]
  · obtain ⟨r, hr⟩ := List.head?_eq_some_iff.mp hc
    obtain ⟨k, hk⟩ := Nat.exists_eq_add_of_lt hlt
    -- a digit behind would have been taken too
    have htake : t.take width = digits ++ c :: r.take k := by
      conv_lhs => rw [← heq, hr, List.take_append, List.take_of_length_le hlt.le]
      rw [hk, Nat.add_assoc, Nat.add_sub_cancel_left, List.take_succ_cons]
    rw [htake, List.takeWhile_append_of_pos hdigit] at hdigits
    refine Bool.eq_false_iff.mpr fun hc => ?_
    rw [List.takeWhile_cons_of_pos hc] at hdigits
    exact List.cons_ne_nil _ _ (List.append_right_eq_self.mp hdigits)

/-- What is left begins with no digit, so no number stands right there. -/
theorem ne_nil_of_stops (h : SpellsNumber width s blanks digits rest)
    (hstops : ∀ c ∈ s.head?, Catalog.isAsciiDigit c = false) : blanks ≠ [] := by
  rintro rfl
  obtain ⟨c, ds, rfl⟩ := List.exists_cons_of_ne_nil h.ne_nil
  have hc := h.isAsciiDigit c (List.mem_cons_self ..)
  rw [hstops c (by rw [h.eq]; rfl)] at hc
  cases hc

/-- A number in front of another one takes all the digits that it may have. -/
theorem length_eq (h : SpellsNumber width s blanks digits rest)
    (h' : SpellsNumber width' rest [] digits' rest') : digits.length = width := by
  by_contra hne
  exact h'.ne_nil_of_stops (h.stops (lt_of_le_of_ne h.length_le hne)) rfl

end SpellsNumber

/-- **What is read as a number.** -/
theorem takeNumber_eq_some_iff {width n : Nat} {s rest : List Char} :
    takeNumber width s = some (n, rest) ↔
      ∃ blanks digits, SpellsNumber width s blanks digits rest ∧ n = digitsValue digits := by
  constructor
  · intro h
    simp only [takeNumber] at h
    split at h
    · cases h
    · next hne =>
      cases h
      obtain ⟨blanks, h⟩ := SpellsNumber.of_trimStart fun hnil => hne (by rw [hnil]; rfl)
      exact ⟨blanks, _, h, rfl⟩
  · rintro ⟨blanks, digits, h, rfl⟩
    simp only [takeNumber, h.trimStart_eq, h.takeWhile_eq, List.drop_left]
    rw [if_neg (by simpa using h.ne_nil)]

/-- Blanks in front of a number are passed over once. -/
theorem takeNumber_trimStart (width : Nat) (s : List Char) :
    takeNumber width (trimStart s) = takeNumber width s := by
  have hidem : trimStart (trimStart s) = trimStart s := List.dropWhile_idempotent ..
  rw [takeNumber, hidem, takeNumber]

/-- A year at the front of a text: up to four digits, or any number of them behind a sign. -/
inductive SpellsYear : List Char → List Char → Int → Prop where
  | unsigned {s blanks digits rest : List Char} (h : SpellsNumber 4 s blanks digits rest) :
    SpellsYear s rest (digitsValue digits)
  | plus {s blanks digits rest : List Char} (hblanks : ∀ c ∈ blanks, isBlank c = true)
    (h : SpellsNumber (digits.length + 1) s [] digits rest) :
    SpellsYear (blanks ++ '+' :: s) rest (digitsValue digits)
  | minus {s blanks digits rest : List Char} (hblanks : ∀ c ∈ blanks, isBlank c = true)
    (h : SpellsNumber (digits.length + 1) s [] digits rest) :
    SpellsYear (blanks ++ '-' :: s) rest (-(digitsValue digits : Int))

/-- Without a bound all digits are read. -/
theorem SpellsNumber.of_takeWhile {s : List Char} (hne : s.takeWhile Catalog.isAsciiDigit ≠ []) :
    SpellsNumber ((s.takeWhile Catalog.isAsciiDigit).length + 1) s []
      (s.takeWhile Catalog.isAsciiDigit)
      (s.drop (s.takeWhile Catalog.isAsciiDigit).length) := by
  have hdrop : s.drop (s.takeWhile Catalog.isAsciiDigit).length =
      s.dropWhile Catalog.isAsciiDigit :=
    List.append_cancel_left ((List.prefix_iff_eq_append.mp (List.takeWhile_prefix _)).trans
      List.takeWhile_append_dropWhile.symm)
  refine ⟨?_, nofun, fun c => List.mem_takeWhile_imp, hne, Nat.le_succ _, fun _ c hc => ?_⟩
  · rw [hdrop, List.nil_append, List.takeWhile_append_dropWhile]
  · rw [hdrop] at hc
    have := List.head?_dropWhile_not Catalog.isAsciiDigit s
    rw [Option.mem_def.mp hc] at this
    simpa using this

/-- What is read without a bound. -/
theorem takeDigits_eq_some_iff {s rest : List Char} {n : Nat} :
    (if (s.takeWhile isAsciiDigit).isEmpty then none
      else some (digitsValue (s.takeWhile isAsciiDigit),
        s.drop (s.takeWhile isAsciiDigit).length)) = some (n, rest) ↔
      ∃ digits, SpellsNumber (digits.length + 1) s [] digits rest ∧ n = digitsValue digits := by
  constructor
  · intro h
    split at h
    · cases h
    · next hne =>
      cases h
      exact ⟨_, .of_takeWhile fun hnil => hne (by rw [hnil]; rfl), rfl⟩
  · rintro ⟨digits, h, rfl⟩
    have htake : s.takeWhile isAsciiDigit = digits := by
      rw [h.eq, List.nil_append, List.takeWhile_append_of_pos h.isAsciiDigit,
        List.append_right_eq_self]
      cases rest with
      | nil => rfl
      | cons c r =>
        exact List.takeWhile_cons_of_neg
          (by rw [h.stops (Nat.lt_succ_self _) c rfl]; exact Bool.false_ne_true)
    rw [htake, if_neg (by simpa using h.ne_nil), h.eq, List.nil_append, List.drop_left]

theorem trimStart_append_cons {blanks r : List Char} {c : Char}
    (hblanks : ∀ c ∈ blanks, isBlank c = true) (hc : isBlank c = false) :
    trimStart (blanks ++ c :: r) = c :: r := by
  rw [trimStart, List.dropWhile_append_of_pos hblanks,
    List.dropWhile_cons_of_neg (by rw [hc]; exact Bool.false_ne_true)]

/-- What is read as a year spells it: the sign behind the blanks decides. -/
theorem SpellsYear.of_takeYear {s rest : List Char} {year : Int}
    (h : takeYear s = some (year, rest)) : SpellsYear s rest year := by
  have hsplit : s.takeWhile isBlank ++ trimStart s = s := List.takeWhile_append_dropWhile
  have hblanks : ∀ c ∈ s.takeWhile isBlank, isBlank c = true := fun c => List.mem_takeWhile_imp
  rw [takeYear] at h
  split at h
  · next r heq =>
    obtain ⟨⟨n, t⟩, hn, hyear⟩ := Option.map_eq_some_iff.mp h
    obtain ⟨digits, hdigits, rfl⟩ := takeDigits_eq_some_iff.mp hn
    cases hyear
    rw [← hsplit, heq]
    exact .minus hblanks hdigits
  · next r heq =>
    obtain ⟨⟨n, t⟩, hn, hyear⟩ := Option.map_eq_some_iff.mp h
    obtain ⟨digits, hdigits, rfl⟩ := takeDigits_eq_some_iff.mp hn
    cases hyear
    rw [← hsplit, heq]
    exact .plus hblanks hdigits
  · obtain ⟨⟨n, r⟩, hn, hyear⟩ := Option.map_eq_some_iff.mp h
    rw [takeNumber_trimStart] at hn
    obtain ⟨blanks, digits, hdigits, rfl⟩ := takeNumber_eq_some_iff.mp hn
    cases hyear
    exact .unsigned hdigits

theorem SpellsYear.takeYear_eq {s rest : List Char} {year : Int} (h : SpellsYear s rest year) :
    takeYear s = some (year, rest) := by
  cases h with
  | plus hblanks h =>
    rw [takeYear, trimStart_append_cons hblanks (by decide)]
    exact congrArg (Option.map _) (takeDigits_eq_some_iff.mpr ⟨_, h, rfl⟩)
  | minus hblanks h =>
    rw [takeYear, trimStart_append_cons hblanks (by decide)]
    exact congrArg (Option.map _) (takeDigits_eq_some_iff.mpr ⟨_, h, rfl⟩)
  | @unsigned _ blanks digits _ h =>
    have hn := takeNumber_eq_some_iff.mpr ⟨blanks, digits, h, rfl⟩
    rw [← takeNumber_trimStart] at hn
    obtain ⟨c, ds, rfl⟩ := List.exists_cons_of_ne_nil h.ne_nil
    have hc := h.isAsciiDigit c (List.mem_cons_self ..)
    rw [h.trimStart_eq] at hn
    rw [takeYear_of_trimStart hc h.trimStart_eq]
    exact congrArg (Option.map _) hn

/-- **What is read as a year.** -/
theorem takeYear_eq_some_iff {s rest : List Char} {year : Int} :
    takeYear s = some (year, rest) ↔ SpellsYear s rest year :=
  ⟨.of_takeYear, SpellsYear.takeYear_eq⟩

/-! ### Dates -/

/-- A number of one or two digits at the front of a text. -/
def SpellsPart (s rest : List Char) (n : Nat) : Prop :=
  ∃ blanks digits, SpellsNumber 2 s blanks digits rest ∧ n = digitsValue digits

/-- A text that is a date and a time of day, one number behind the other. -/
def SpellsDate (s : String) (year : Int) (month day hour minute second : Nat) : Prop :=
  ∃ r₀ r₁ r₂ r₃ r₄, SpellsYear s.toList r₀ year ∧ SpellsPart r₀ r₁ month ∧ SpellsPart r₁ r₂ day ∧
    SpellsPart r₂ r₃ hour ∧ SpellsPart r₃ r₄ minute ∧ SpellsPart r₄ [] second

/-- The digits in some columns of a text. -/
def column (s : String) (start width : Nat) : List Char :=
  (s.toList.drop start).take width

/-- Whether the columns of a text denote a date and a time of day, as in `yyyyMMddHHmmss`. -/
def DenotesMoment (s : String) : Prop :=
  IsDateTime (digitsValue (column s 0 4)) (digitsValue (column s 4 2)) (digitsValue (column s 6 2))
    (digitsValue (column s 8 2)) (digitsValue (column s 10 2)) (digitsValue (column s 12 2))

namespace Moment

variable {s : String} {m : Moment} {year : Int} {month day hour minute second : Nat}

/-- The moment of six numbers, if they are a date and a time of day. -/
def ofNumbers? (year : Int) (month day hour minute second : Nat) : Option Moment :=
  if second = 60 then ofParts? year month day hour minute 59 nanosPerSecond
  else ofParts? year month day hour minute second 0

theorem isSome_ofNumbers?_iff : (ofNumbers? year month day hour minute second).isSome ↔
    IsDateTime year month day hour minute second := by
  unfold ofNumbers? ofParts?
  constructor
  · intro h
    split at h
    · next hsixty =>
      split at h
      · next hparts =>
        obtain ⟨hyear, hmonth, hday, ⟨hhour, hminute, -⟩, -⟩ := hparts
        exact ⟨hyear, hmonth, hday, hhour, hminute, hsixty.le⟩
      · cases h
    · split at h
      · next hparts =>
        obtain ⟨hyear, hmonth, hday, ⟨hhour, hminute, hsecond⟩, -⟩ := hparts
        exact ⟨hyear, hmonth, hday, hhour, hminute, hsecond.le⟩
      · cases h
  · rintro ⟨hyear, hmonth, hday, hhour, hminute, hsecond⟩
    split
    · rw [dif_pos ⟨hyear, hmonth, hday, ⟨hhour, hminute, by decide⟩, by decide⟩]
      rfl
    · next hne =>
      rw [dif_pos ⟨hyear, hmonth, hday, ⟨hhour, hminute, by omega⟩, by decide⟩]
      rfl

/-- The numbers of a moment are written in its text. -/
theorem numbers_of_ofNumbers? (h : ofNumbers? year month day hour minute second = some m) :
    m.year = year ∧ m.month = month ∧ m.day = day ∧ m.hour = hour ∧ m.minute = minute ∧
      m.writtenSecond = second := by
  have hleap : 59 + nanosPerSecond / nanosPerSecond = 60 := by decide
  unfold ofNumbers? ofParts? at h
  split at h
  · next hsixty =>
    split at h
    · cases h
      exact ⟨rfl, rfl, rfl, rfl, rfl, hleap.trans hsixty.symm⟩
    · cases h
  · split at h
    · cases h
      exact ⟨rfl, rfl, rfl, rfl, rfl, writtenSecond_eq (Nat.zero_lt_succ _)⟩
    · cases h

/-- Six numbers, one behind the other, are read as their moment. -/
theorem ofStamp?_of_spellsDate (h : SpellsDate s year month day hour minute second) :
    ofStamp? s = ofNumbers? year month day hour minute second := by
  obtain ⟨r₀, r₁, r₂, r₃, r₄, hyear, hmonth, hday, hhour, hminute, hsecond⟩ := h
  have hpart {n : Nat} {s rest : List Char} (h : SpellsPart s rest n) :
      takePart .nothing s = some (n, rest) := takeNumber_eq_some_iff.mpr h
  rw [ofStamp?, read?, takeYear_eq_some_iff.mpr hyear]
  simp only [Layout.stamp, hpart hmonth, hpart hday, hpart hhour, hpart hminute, hpart hsecond,
    Option.bind_eq_bind, Option.bind_some, List.isEmpty_nil, if_true]
  rfl

/-- **What is read as a stored date**: six numbers, one behind the other, that are a date and a time
of day. -/
theorem ofStamp?_eq_some_iff : ofStamp? s = some m ↔
    ∃ year month day hour minute second, SpellsDate s year month day hour minute second ∧
      ofNumbers? year month day hour minute second = some m := by
  constructor
  · intro h
    obtain ⟨⟨year, r₀⟩, hyear, h⟩ := Option.bind_eq_some_iff.mp h
    obtain ⟨⟨month, r₁⟩, hmonth, h⟩ := Option.bind_eq_some_iff.mp h
    obtain ⟨⟨day, r₂⟩, hday, h⟩ := Option.bind_eq_some_iff.mp h
    obtain ⟨⟨hour, r₃⟩, hhour, h⟩ := Option.bind_eq_some_iff.mp h
    obtain ⟨⟨minute, r₄⟩, hminute, h⟩ := Option.bind_eq_some_iff.mp h
    obtain ⟨⟨second, r₅⟩, hsecond, h⟩ := Option.bind_eq_some_iff.mp h
    cases r₅ with
    | cons c r => cases h
    | nil =>
      exact ⟨year, month, day, hour, minute, second,
        ⟨r₀, r₁, r₂, r₃, r₄, takeYear_eq_some_iff.mp hyear, takeNumber_eq_some_iff.mp hmonth,
          takeNumber_eq_some_iff.mp hday, takeNumber_eq_some_iff.mp hhour,
          takeNumber_eq_some_iff.mp hminute, takeNumber_eq_some_iff.mp hsecond⟩, h⟩
  · rintro ⟨year, month, day, hour, minute, second, hs, h⟩
    rw [ofStamp?_of_spellsDate hs, h]

/-- Whether a text is read as a stored date. -/
theorem isSome_ofStamp?_iff : (ofStamp? s).isSome ↔
    ∃ year month day hour minute second, SpellsDate s year month day hour minute second ∧
      IsDateTime year month day hour minute second := by
  simp only [← isSome_ofNumbers?_iff, Option.isSome_iff_exists, ofStamp?_eq_some_iff]
  constructor
  · rintro ⟨m, year, month, day, hour, minute, second, hs, hm⟩
    exact ⟨year, month, day, hour, minute, second, hs, m, hm⟩
  · rintro ⟨year, month, day, hour, minute, second, hs, m, hm⟩
    exact ⟨m, year, month, day, hour, minute, second, hs, hm⟩

end Moment

/-! ### Fourteen digits -/

namespace IsDateText

variable {s : String}

theorem length_column (hs : IsDateText s) {start width : Nat} (h : start + width ≤ 14) :
    (column s start width).length = width := by
  rw [column, List.length_take, List.length_drop, hs.1]
  omega

theorem isAsciiDigit (hs : IsDateText s) {start width : Nat} :
    ∀ c ∈ column s start width, isAsciiDigit c = true := fun c hc =>
  hs.2 c (List.mem_of_mem_drop (List.mem_of_mem_take hc))

/-- A text of fourteen digits is made of its columns. -/
theorem toList_eq (hs : IsDateText s) : s.toList = column s 0 4 ++ (column s 4 2 ++
    (column s 6 2 ++ (column s 8 2 ++ (column s 10 2 ++ (column s 12 2 ++ []))))) := by
  have hlast : (s.toList.drop 12).take 2 = s.toList.drop 12 :=
    List.take_of_length_le (by rw [List.length_drop, hs.1])
  have hstep (n : Nat) : (s.toList.drop n).take 2 ++ s.toList.drop (n + 2) = s.toList.drop n := by
    rw [← List.drop_drop, List.take_append_drop]
  simp only [column, List.append_nil, List.drop_zero]
  rw [hlast, hstep 10, hstep 8, hstep 6, hstep 4, List.take_append_drop]

/-- As many digits as are read at most are a number. -/
theorem spellsNumber (hs : IsDateText s) {start width : Nat} (hw : 0 < width)
    (h : start + width ≤ 14) (rest : List Char) :
    SpellsNumber width (column s start width ++ rest) [] (column s start width) rest where
  eq := rfl
  isBlank := nofun
  isAsciiDigit := hs.isAsciiDigit
  ne_nil := List.ne_nil_of_length_pos ((hs.length_column h).symm ▸ hw)
  length_le := (hs.length_column h).le
  stops hlt := absurd (hs.length_column h) hlt.ne

/-- The numbers of a text of fourteen digits are its columns. -/
theorem spellsDate (hs : IsDateText s) : SpellsDate s (digitsValue (column s 0 4))
    (digitsValue (column s 4 2)) (digitsValue (column s 6 2)) (digitsValue (column s 8 2))
    (digitsValue (column s 10 2)) (digitsValue (column s 12 2)) := by
  have hpart (start : Nat) (h : start + 2 ≤ 14) (rest : List Char) :
      SpellsPart (column s start 2 ++ rest) rest (digitsValue (column s start 2)) :=
    ⟨[], _, hs.spellsNumber (by decide) h rest, rfl⟩
  have hfirst (rest : List Char) :
      SpellsNumber 4 (column s 0 4 ++ rest) [] (column s 0 4) rest :=
    hs.spellsNumber (by decide) (by decide) rest
  have hyear := SpellsYear.unsigned (hfirst (column s 4 2 ++ (column s 6 2 ++ (column s 8 2 ++
    (column s 10 2 ++ (column s 12 2 ++ []))))))
  rw [← hs.toList_eq] at hyear
  exact ⟨_, _, _, _, _, hyear, hpart 4 (by decide) _, hpart 6 (by decide) _,
    hpart 8 (by decide) _, hpart 10 (by decide) _, hpart 12 (by decide) _⟩

end IsDateText

namespace Moment

variable {s : String} {m : Moment}

/-- **Which texts of fourteen digits are read**: those whose columns denote a moment. -/
theorem isSome_ofStamp?_iff_columns (hs : IsDateText s) :
    (ofStamp? s).isSome ↔ DenotesMoment s := by
  rw [ofStamp?_of_spellsDate hs.spellsDate, isSome_ofNumbers?_iff, DenotesMoment]

theorem isDateText_stamp (hm : m.HasPlainYear) : IsDateText m.stamp := by
  have hyear : m.year.toNat < 10 ^ 4 := by
    have := hm.2
    omega
  obtain ⟨hhour, hminute, -⟩ := m.time_lt
  have hlength {n : Nat} (hn : n < 10 ^ 2) : (paddedDigits 2 n).length = 2 :=
    length_paddedDigits (by decide) hn
  refine ⟨?_, isAsciiDigit_of_mem_stamp hm⟩
  simp only [toList_stamp, yearDigits_of_plain hm, List.length_append,
    length_paddedDigits (show 0 < 4 by decide) hyear, hlength m.month_lt, hlength m.day_lt,
    hlength (show m.hour < 10 ^ 2 by omega), hlength (show m.minute < 10 ^ 2 by omega),
    hlength m.writtenSecond_lt, List.length_nil]

/-- **What is read is written again as it was** exactly if it has fourteen digits. -/
theorem stamp_eq_iff (h : ofStamp? s = some m) : m.stamp = s ↔ IsDateText s := by
  constructor
  · rintro rfl
    have hplain : m.HasPlainYear := by
      by_contra hplain
      rw [ofStamp?_stamp_eq_none hplain] at h
      cases h
    exact isDateText_stamp hplain
  · intro hs
    rw [ofStamp?_of_spellsDate hs.spellsDate] at h
    obtain ⟨hyear, hmonth, hday, hhour, hminute, hsecond⟩ := numbers_of_ofNumbers? h
    have hcolumn (start width : Nat) (hw : 0 < width) (hle : start + width ≤ 14) :
        paddedDigits width (digitsValue (column s start width)) = column s start width :=
      paddedDigits_digitsValue hw hs.isAsciiDigit (hs.length_column hle)
    have hplain : 0 ≤ m.year ∧ m.year ≤ 9999 := by
      have hlt : digitsValue (column s 0 4) < 10 ^ (column s 0 4).length :=
        digitsValue_lt hs.isAsciiDigit
      rw [hs.length_column (by decide)] at hlt
      omega
    refine String.toList_inj.mp ?_
    rw [toList_stamp, yearDigits_of_plain hplain, hyear, hmonth, hday, hhour, hminute, hsecond,
      Int.toNat_natCast, hcolumn 0 4 (by decide) (by decide), hcolumn 4 2 (by decide) (by decide),
      hcolumn 6 2 (by decide) (by decide), hcolumn 8 2 (by decide) (by decide),
      hcolumn 10 2 (by decide) (by decide), hcolumn 12 2 (by decide) (by decide), ← hs.toList_eq]

end Moment

/-! ### Without blanks -/

theorem SpellsNumber.blanks_eq_nil {width : Nat} {s blanks digits rest : List Char}
    (h : SpellsNumber width s blanks digits rest) (hs : ∀ c ∈ s, Catalog.isBlank c = false) :
    blanks = [] := by
  refine List.eq_nil_iff_forall_not_mem.mpr fun c hc => ?_
  have hblank := hs c (by rw [h.eq]; exact List.mem_append_left _ hc)
  rw [h.isBlank c hc] at hblank
  cases hblank

/-- Without blanks a number is nothing but its digits. -/
theorem SpellsPart.exists_digits {s rest : List Char} {n : Nat} (h : SpellsPart s rest n)
    (hs : ∀ c ∈ s, isBlank c = false) :
    ∃ digits, SpellsNumber 2 s [] digits rest ∧ ∀ c ∈ rest, isBlank c = false := by
  obtain ⟨blanks, digits, h, -⟩ := h
  obtain rfl := h.blanks_eq_nil hs
  exact ⟨digits, h, fun c hc => hs c (by rw [h.eq]; simp [hc])⟩

/-- Without blanks a year in front of a month has no sign: all digits behind one are the year's. -/
theorem SpellsYear.exists_digits {s rest rest' : List Char} {year : Int} {month : Nat}
    (h : SpellsYear s rest year) (hs : ∀ c ∈ s, isBlank c = false)
    (hmonth : SpellsPart rest rest' month) :
    (∀ c ∈ rest, isBlank c = false) ∧ ∃ digits, SpellsNumber 4 s [] digits rest := by
  cases h with
  | unsigned h =>
    obtain rfl := h.blanks_eq_nil hs
    exact ⟨fun c hc => hs c (by rw [h.eq]; simp [hc]), _, h⟩
  | plus hblanks h | minus hblanks h =>
    have hrest : ∀ c ∈ rest, isBlank c = false := fun c hc => hs c (by rw [h.eq]; simp [hc])
    obtain ⟨months, hmonths, -⟩ := hmonth.exists_digits hrest
    exact (hmonths.ne_nil_of_stops (h.stops (Nat.lt_succ_self _)) rfl).elim

/-- **A date without blanks** has fourteen digits, or thirteen: the last number may be short, and no
other. -/
theorem SpellsDate.isDateText {s : String} {year : Int} {month day hour minute second : Nat}
    (h : SpellsDate s year month day hour minute second)
    (hs : ∀ c ∈ s.toList, isBlank c = false) :
    IsDateText s ∨ s.toList.length = 13 ∧ ∀ c ∈ s.toList, isAsciiDigit c = true := by
  obtain ⟨r₀, r₁, r₂, r₃, r₄, hyear, hmonth, hday, hhour, hminute, hsecond⟩ := h
  obtain ⟨hs₀, years, hy⟩ := hyear.exists_digits hs hmonth
  obtain ⟨months, hmo, hs₁⟩ := hmonth.exists_digits hs₀
  obtain ⟨days, hd, hs₂⟩ := hday.exists_digits hs₁
  obtain ⟨hours, hh, hs₃⟩ := hhour.exists_digits hs₂
  obtain ⟨minutes, hmi, hs₄⟩ := hminute.exists_digits hs₃
  obtain ⟨seconds, hse, -⟩ := hsecond.exists_digits hs₄
  have heq : s.toList = years ++ (months ++ (days ++ (hours ++ (minutes ++ (seconds ++ []))))) :=
    hy.eq.trans <| congrArg (years ++ ·) <| hmo.eq.trans <| congrArg (months ++ ·) <|
      hd.eq.trans <| congrArg (days ++ ·) <| hh.eq.trans <| congrArg (hours ++ ·) <|
        hmi.eq.trans <| congrArg (minutes ++ ·) hse.eq
  have hdigits : ∀ c ∈ s.toList, isAsciiDigit c = true := by
    intro c hc
    rw [heq] at hc
    simp only [List.mem_append, List.not_mem_nil, or_false] at hc
    rcases hc with hc | hc | hc | hc | hc | hc
    exacts [hy.isAsciiDigit c hc, hmo.isAsciiDigit c hc, hd.isAsciiDigit c hc,
      hh.isAsciiDigit c hc, hmi.isAsciiDigit c hc, hse.isAsciiDigit c hc]
  have hlength := congrArg List.length heq
  simp only [List.length_append, hy.length_eq hmo, hmo.length_eq hd, hd.length_eq hh,
    hh.length_eq hmi, hmi.length_eq hse, List.length_nil] at hlength
  have hpos := List.length_pos_of_ne_nil hse.ne_nil
  have hle := hse.length_le
  by_cases htwo : seconds.length = 2
  · exact .inl ⟨by omega, hdigits⟩
  · exact .inr ⟨by omega, hdigits⟩

end Catalog
