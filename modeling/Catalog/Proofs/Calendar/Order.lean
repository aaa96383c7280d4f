import Catalog.Proofs.Calendar.Stamp
import Catalog.Query.Entry
import Mathlib.Data.Char
import Mathlib.Order.Lex

/-!
# The order of stored dates

Within years of four digits every part of a stored date has a width of its own, so that texts are
compared part by part and each part as a number. That is the order in time, where a leap second is
the second behind the sixtieth of its minute. What is stored of a leap second has lost its
nanoseconds, and with them what tells it from the second before it.

Every other year is written with a sign in front and in as many digits as it needs, and the texts of
such years are compared from the left. So dates of two years may stand the other way round, and it
is told from the texts of the years when they do.

## Main definitions

* `Moment.inSecond`: a moment up to its second
* `Moment.IsLeap`: a moment within a leap second
* `Moment.AtMost`: a moment that is not later than another one, up to the second
* `Moment.Inverts`: a date of an earlier year that is written behind one of a later year
* `Moment.YearsStray`: two dates whose texts are not in the order of their years

## Main results

* `compare_map_digits`: digits of one width are in the order of the numbers
* `Moment.compare_stamp`, `Moment.compare_bytes_stamp`: texts of dates are in the order of time
* `Moment.compare_inSecond_truncate_eq_iff`: what becomes of the order where nanoseconds are lost
* `Moment.compare_stamp_eq_gt_iff`: when a date of an earlier year is written behind another one
* `Moment.compare_stamp_ne_gt_iff`: the order of all texts of dates, whatever their years are
-/

namespace Catalog

/-! ### Comparing -/

/-- Values are compared alike if they are smaller alike and the same alike. -/
theorem compareOfLessAndEq_congr {α β : Type} [LT α] [DecidableLT α] [DecidableEq α] [LT β]
    [DecidableLT β] [DecidableEq β] {a b : α} {c d : β} (hlt : a < b ↔ c < d) (heq : a = b ↔ c = d) :
    compareOfLessAndEq a b = compareOfLessAndEq c d := by
  simp only [compareOfLessAndEq, hlt, heq]

/-- Texts are compared character by character. -/
theorem compare_toList (s t : String) : compare s.toList t.toList = compare s t := by
  have hlist (as bs : List Char) : compare as bs = compareOfLessAndEq as bs := by
    induction as generalizing bs with
    | nil => cases bs <;> rfl
    | cons a as ih =>
      cases bs with
      | nil => rfl
      | cons b bs =>
        rw [List.compare_cons_cons, ih]
        rcases lt_trichotomy a b with h | rfl | h
        · have hchars : compare a b = .lt := compareOfLessAndEq_eq_lt.mpr h
          rw [hchars, Ordering.lt_then, eq_comm, compareOfLessAndEq_eq_lt]
          exact .rel h
        · rw [Std.ReflOrd.compare_self, Ordering.eq_then]
          exact compareOfLessAndEq_congr (by simp) (by simp)
        · have hchars : compare a b = .gt := Std.OrientedCmp.gt_iff_lt.mpr
            (compareOfLessAndEq_eq_lt.mpr h)
          have hlists : ¬ a :: as < b :: bs := by
            rw [List.cons_lt_cons_iff]
            rintro (h' | ⟨rfl, -⟩)
            · exact absurd h' h.asymm
            · exact absurd h (lt_irrefl a)
          rw [hchars, Ordering.gt_then, compareOfLessAndEq, if_neg hlists,
            if_neg fun heq => h.ne' (List.cons.inj heq).1]
  exact (hlist _ _).trans (compareOfLessAndEq_congr Iff.rfl String.toList_inj)

/-- Numbers are compared by their quotients first. -/
theorem compare_mul_add {a b x y n : Nat} (hx : x < n) (hy : y < n) :
    compare (a * n + x) (b * n + y) = (compare a b).then (compare x y) := by
  rcases Nat.lt_trichotomy a b with h | rfl | h
  · have := Nat.mul_le_mul_right n h
    rw [Nat.compare_eq_lt.mpr h, Ordering.lt_then, Nat.compare_eq_lt]
    rw [Nat.succ_mul] at this
    omega
  · rw [Nat.compare_eq_eq.mpr rfl, Ordering.eq_then]
    exact compareOfLessAndEq_congr (by omega) (by omega)
  · have := Nat.mul_le_mul_right n h
    rw [Nat.compare_eq_gt.mpr h, Ordering.gt_then, Nat.compare_eq_gt]
    rw [Nat.succ_mul] at this
    omega

/-! ### Digits -/

theorem digitsValue_cons (c : Char) (s : List Char) :
    digitsValue (c :: s) = (c.toNat - '0'.toNat) * 10 ^ s.length + digitsValue s :=
  (digitsValue_append [c] s).trans <| by
    rw [digitsValue_eq [c], Nat.ofDigitChars_cons, Nat.ofDigitChars_nil, Nat.mul_zero, Nat.zero_add]

theorem digitsValue_lt {s : List Char} (hs : ∀ c ∈ s, isAsciiDigit c = true) :
    digitsValue s < 10 ^ s.length := by
  induction s with
  | nil => decide
  | cons c s ih =>
    have hc := isAsciiDigit_iff.mp (hs c (List.mem_cons_self ..))
    have hdigit : c.toNat - '0'.toNat ≤ 9 := Nat.sub_le_of_le_add hc.2
    have hrest := ih fun d hd => hs d (List.mem_cons_of_mem _ hd)
    rw [digitsValue_cons, List.length_cons, Nat.pow_succ]
    have := Nat.mul_le_mul_right (10 ^ s.length) hdigit
    omega

/-- An alphabet that has the digits, in their order. -/
def KeepsDigits {γ : Type} [Ord γ] (f : Char → γ) : Prop :=
  ∀ c d, isAsciiDigit c = true → isAsciiDigit d = true →
    compare (f c) (f d) = compare c.toNat d.toNat

theorem keepsDigits_id : KeepsDigits fun c : Char => c := fun _ _ _ _ =>
  compareOfLessAndEq_congr UInt32.lt_iff_toNat_lt Char.toNat_inj.symm

/-- The byte of an ASCII character. -/
def asciiByte (c : Char) : UInt8 := c.toNat.toUInt8

theorem keepsDigits_asciiByte : KeepsDigits asciiByte := by
  intro c d hc hd
  have htoNat {e : Char} (he : isAsciiDigit e = true) : (asciiByte e).toNat = e.toNat :=
    UInt8.toNat_ofNat_of_lt' ((isAsciiDigit_iff.mp he).2.trans_lt (by decide))
  refine compareOfLessAndEq_congr ?_ ?_
  · rw [UInt8.lt_iff_toNat_lt, htoNat hc, htoNat hd]
  · rw [← UInt8.toNat_inj, htoNat hc, htoNat hd]

theorem toList_eq_data (bytes : ByteArray) : bytes.toList = bytes.data.toList := by
  have hloop (i : Nat) (r : List UInt8) :
      ByteArray.toList.loop bytes i r = r.reverse ++ bytes.data.toList.drop i := by
    induction i, r using ByteArray.toList.loop.induct bytes with
    | case1 i r hi ih =>
      have hsize : i < bytes.data.toList.length := hi
      have hget : bytes.get! i = bytes.data.toList[i] := getElem!_pos bytes.data i hi
      rw [ByteArray.toList.loop, if_pos hi, ih, hget, List.drop_eq_getElem_cons hi,
        List.reverse_cons, List.append_assoc, List.singleton_append]
    | case2 i r hi =>
      rw [ByteArray.toList.loop, if_neg hi, List.drop_of_length_le (Nat.le_of_not_lt hi),
        List.append_nil]
  exact hloop 0 []

/-- An ASCII character is one byte. -/
theorem Payload.bytes_text_of_ascii {s : String} (h : ∀ c ∈ s.toList, c.toNat < 128) :
    (Payload.text s).bytes = s.toList.map asciiByte := by
  have hchar {c : Char} (hc : c ∈ s.toList) : String.utf8EncodeChar c = [asciiByte c] :=
    if_pos (Nat.le_of_lt_succ (h c hc))
  rw [Payload.bytes, String.toUTF8_eq_toByteArray, toList_eq_data, ← String.utf8Encode_toList,
    List.utf8Encode, List.toList_data_toByteArray, List.flatMap_def,
    List.map_congr_left fun _ => hchar, ← List.flatMap_def, ← List.map_eq_flatMap]

section Digits

variable {γ : Type} [Ord γ]

/-- Texts are compared by their fronts first, if those have one width. -/
theorem compare_append_of_length_eq {as bs : List γ} (h : as.length = bs.length)
    (as' bs' : List γ) :
    compare (as ++ as') (bs ++ bs') = (compare as bs).then (compare as' bs') := by
  induction as generalizing bs with
  | nil =>
    obtain rfl := List.length_eq_zero_iff.mp h.symm
    rw [List.nil_append, List.nil_append, List.compare_nil_nil]
    rfl
  | cons a as ih =>
    cases bs with
    | nil => cases h
    | cons b bs =>
      rw [List.cons_append, List.cons_append, List.compare_cons_cons, List.compare_cons_cons,
        ih (Nat.succ.inj h), Ordering.then_assoc]

/-- A common front does not matter. -/
theorem compare_append_left [Std.ReflOrd γ] (as bs cs : List γ) :
    compare (as ++ bs) (as ++ cs) = compare bs cs := by
  rw [compare_append_of_length_eq rfl, Std.ReflOrd.compare_self, Ordering.eq_then]

/-- Texts are compared by their fronts alone, if neither of those is the front of the other one. -/
theorem compare_append_of_fronts {as bs : List γ} (h : ¬ as <+: bs) (h' : ¬ bs <+: as)
    [Std.LawfulEqOrd γ] (as' bs' : List γ) :
    compare (as ++ as') (bs ++ bs') = compare as bs := by
  induction as generalizing bs with
  | nil => exact absurd (List.nil_prefix) h
  | cons a as ih =>
    cases bs with
    | nil => exact absurd (List.nil_prefix) h'
    | cons b bs =>
      rw [List.cons_append, List.cons_append, List.compare_cons_cons, List.compare_cons_cons]
      cases hab : compare a b with
      | lt => rfl
      | gt => rfl
      | eq =>
        obtain rfl := Std.LawfulEqOrd.eq_of_compare hab
        rw [List.prefix_cons_inj] at h h'
        exact ih h h'

variable {f : Char → γ} (hf : KeepsDigits f)

include hf

/-- **Digits of one width are in the order of the numbers.** -/
theorem compare_map_digits {as bs : List Char} (has : ∀ c ∈ as, isAsciiDigit c = true)
    (hbs : ∀ c ∈ bs, isAsciiDigit c = true) (h : as.length = bs.length) :
    compare (as.map f) (bs.map f) = compare (digitsValue as) (digitsValue bs) := by
  induction as generalizing bs with
  | nil =>
    obtain rfl := List.length_eq_zero_iff.mp h.symm
    rfl
  | cons a as ih =>
    cases bs with
    | nil => cases h
    | cons b bs =>
      obtain ⟨ha, has⟩ := List.forall_mem_cons.mp has
      obtain ⟨hb, hbs⟩ := List.forall_mem_cons.mp hbs
      have hlength : as.length = bs.length := Nat.succ.inj h
      have hdigits : compare (a.toNat - '0'.toNat) (b.toNat - '0'.toNat) =
          compare a.toNat b.toNat := by
        have hle := (isAsciiDigit_iff.mp ha).1
        have hle' := (isAsciiDigit_iff.mp hb).1
        have hzero : '0'.toNat = 48 := rfl
        exact compareOfLessAndEq_congr (by omega) (by omega)
      rw [List.map_cons, List.map_cons, List.compare_cons_cons, hf a b ha hb, ih has hbs hlength,
        digitsValue_cons, digitsValue_cons, hlength,
        compare_mul_add (hlength ▸ digitsValue_lt has) (digitsValue_lt hbs), hdigits]

/-- A part of a text that has one width is compared as a number, before what comes behind it. -/
theorem compare_paddedDigits_append {width m n : Nat} (hw : 0 < width) (hm : m < 10 ^ width)
    (hn : n < 10 ^ width) (as bs : List Char) :
    compare ((paddedDigits width m ++ as).map f) ((paddedDigits width n ++ bs).map f) =
      (compare m n).then (compare (as.map f) (bs.map f)) := by
  have hlength : (paddedDigits width m).length = (paddedDigits width n).length :=
    (length_paddedDigits hw hm).trans (length_paddedDigits hw hn).symm
  rw [List.map_append, List.map_append,
    compare_append_of_length_eq (by rw [List.length_map, List.length_map, hlength]),
    compare_map_digits hf (fun _ => isAsciiDigit_of_mem_paddedDigits)
      (fun _ => isAsciiDigit_of_mem_paddedDigits) hlength,
    digitsValue_paddedDigits, digitsValue_paddedDigits]

end Digits

/-! ### Dates -/

namespace Moment

/-- The parts of a moment up to its minute, the largest first. -/
def inMinute (m : Moment) : List Int :=
  [m.year, m.month, m.day, m.hour, m.minute]

/-- The parts of a moment up to its second. A leap second is second 60. -/
def inSecond (m : Moment) : List Int :=
  m.inMinute ++ [(m.writtenSecond : Int)]

/-- Whether a moment lies within a leap second. -/
def IsLeap (m : Moment) : Prop :=
  nanosPerSecond ≤ m.nano

instance (m : Moment) : Decidable m.IsLeap :=
  inferInstanceAs (Decidable (_ ≤ _))

theorem compare_cast (m n : Nat) : compare (m : Int) (n : Int) = compare m n :=
  compareOfLessAndEq_congr Int.ofNat_lt Int.ofNat_inj

/-- Moments are compared by their minutes first. -/
theorem compare_inSecond (a b : Moment) : compare a.inSecond b.inSecond =
    (compare a.inMinute b.inMinute).then (compare a.writtenSecond b.writtenSecond) := by
  have hlength : a.inMinute.length = b.inMinute.length := rfl
  rw [inSecond, inSecond, compare_append_of_length_eq hlength, List.compare_cons_cons,
    List.compare_nil_nil, Ordering.then_eq, compare_cast]

theorem writtenSecond_eq_add (m : Moment) :
    m.writtenSecond = m.second + if m.IsLeap then 1 else 0 := by
  rw [writtenSecond]
  split
  · next h => rw [Nat.div_eq_of_lt_le (by rwa [Nat.one_mul]) m.nano_lt]
  · next h => rw [Nat.div_eq_of_lt (Nat.lt_of_not_le h)]

theorem writtenSecond_truncate (m : Moment) : m.truncate.writtenSecond = m.second :=
  writtenSecond_eq (m := m.truncate) (Nat.zero_lt_succ _)

theorem isAsciiDigit_of_mem_stamp {m : Moment} (hm : m.HasPlainYear) :
    ∀ c ∈ m.stamp.toList, isAsciiDigit c = true := by
  intro c hc
  rw [toList_stamp, yearDigits_of_plain hm] at hc
  simp only [List.mem_append, List.not_mem_nil, or_false] at hc
  rcases hc with hc | hc | hc | hc | hc | hc <;> exact isAsciiDigit_of_mem_paddedDigits hc

theorem ascii_of_mem_stamp {m : Moment} (hm : m.HasPlainYear) :
    ∀ c ∈ m.stamp.toList, c.toNat < 128 := fun c hc =>
  (isAsciiDigit_iff.mp (isAsciiDigit_of_mem_stamp hm c hc)).2.trans_lt (by decide)

variable {a b : Moment}

/-- Moments are compared by their years first. -/
theorem compare_inSecond_eq_then (a b : Moment) : compare a.inSecond b.inSecond =
    (compare a.year b.year).then (compare a.inSecond.tail b.inSecond.tail) :=
  List.compare_cons_cons

/-- What is written behind the year is compared part by part, in every alphabet that has the digits
in order. -/
theorem compare_map_behindYear {γ : Type} [Ord γ] {f : Char → γ} (hf : KeepsDigits f)
    (a b : Moment) : compare (a.behindYear.map f) (b.behindYear.map f) =
      compare a.inSecond.tail b.inSecond.tail := by
  obtain ⟨hhour, hminute, -⟩ := a.time_lt
  obtain ⟨hhour', hminute', -⟩ := b.time_lt
  rw [behindYear, behindYear, compare_paddedDigits_append hf (by decide) a.month_lt b.month_lt,
    compare_paddedDigits_append hf (by decide) a.day_lt b.day_lt,
    compare_paddedDigits_append hf (by decide) (by omega) (by omega),
    compare_paddedDigits_append hf (by decide) (by omega) (by omega),
    compare_paddedDigits_append hf (by decide) a.writtenSecond_lt b.writtenSecond_lt]
  simp only [inSecond, inMinute, List.cons_append, List.nil_append, List.tail_cons,
    List.compare_cons_cons, compare_cast, List.map_nil, List.compare_nil_nil, Ordering.then_eq]

section Plain

variable (ha : a.HasPlainYear) (hb : b.HasPlainYear)

include ha hb

/-- Texts of dates are compared part by part, in every alphabet that has the digits in order. -/
theorem compare_map_stamp {γ : Type} [Ord γ] {f : Char → γ} (hf : KeepsDigits f) :
    compare (a.stamp.toList.map f) (b.stamp.toList.map f) = compare a.inSecond b.inSecond := by
  have hyears : compare a.year.toNat b.year.toNat = compare a.year b.year := by
    have := ha.1
    have := hb.1
    exact compareOfLessAndEq_congr (by omega) (by omega)
  have hyear {m : Moment} (hm : m.HasPlainYear) : m.year.toNat < 10 ^ 4 := by
    have := hm.2
    omega
  rw [toList_stamp_eq_append, toList_stamp_eq_append, yearDigits_of_plain ha,
    yearDigits_of_plain hb, compare_paddedDigits_append hf (by decide) (hyear ha) (hyear hb),
    compare_map_behindYear hf, hyears, compare_inSecond_eq_then]

/-- **Texts of dates are in the order of time.** -/
theorem compare_stamp : compare a.stamp b.stamp = compare a.inSecond b.inSecond := by
  rw [← compare_toList]
  simpa only [List.map_id'] using compare_map_stamp ha hb keepsDigits_id

/-- **Texts of dates are in the order of time**, byte by byte. -/
theorem compare_bytes_stamp :
    compare (Payload.text a.stamp).bytes (Payload.text b.stamp).bytes =
      compare a.inSecond b.inSecond := by
  rw [Payload.bytes_text_of_ascii (ascii_of_mem_stamp ha),
    Payload.bytes_text_of_ascii (ascii_of_mem_stamp hb)]
  exact compare_map_stamp ha hb keepsDigits_asciiByte

end Plain

/-- What is left of a moment without its nanoseconds is compared as the moment, if both are leap
seconds or none of them is, or else if they do not stand beside one another. -/
theorem compare_inSecond_truncate_eq_iff :
    compare a.truncate.inSecond b.truncate.inSecond = compare a.inSecond b.inSecond ↔
      (a.IsLeap ↔ b.IsLeap) ∨
        (a.truncate.inSecond ≠ b.truncate.inSecond ∧ a.inSecond ≠ b.inSecond) := by
  have hminute (m : Moment) : m.truncate.inMinute = m.inMinute := rfl
  have hne (l l' : List Int) : l ≠ l' ↔ compare l l' ≠ .eq :=
    not_congr Std.LawfulEqOrd.compare_eq_iff_eq.symm
  rw [hne, hne, compare_inSecond, compare_inSecond, hminute, hminute, writtenSecond_truncate,
    writtenSecond_truncate, writtenSecond_eq_add, writtenSecond_eq_add]
  cases compare a.inMinute b.inMinute with
  | lt => simp
  | gt => simp
  | eq =>
    have hleft (m n : Nat) : compare m n = compare (m + 1) n ↔
        compare m n ≠ .eq ∧ compare (m + 1) n ≠ .eq := by
      simp only [Nat.compare_eq_ite_lt]
      split_ifs <;> simp <;> omega
    have hright (m n : Nat) : compare m n = compare m (n + 1) ↔
        compare m n ≠ .eq ∧ compare m (n + 1) ≠ .eq := by
      simp only [Nat.compare_eq_ite_lt]
      split_ifs <;> simp <;> omega
    have hboth (m n : Nat) : compare m n = compare (m + 1) (n + 1) :=
      compareOfLessAndEq_congr (by omega) (by omega)
    simp only [Ordering.eq_then]
    by_cases ha : a.IsLeap <;> by_cases hb : b.IsLeap
    · simp [ha, hb, ← hboth]
    · simp [ha, hb, hleft]
    · simp [ha, hb, hright]
    · simp [ha, hb]

/-! ### Ends of a range -/

/-- Whether a moment is not later than another one, up to the second. -/
def AtMost (a b : Moment) : Prop :=
  compare a.inSecond b.inSecond ≠ .gt

instance (a b : Moment) : Decidable (a.AtMost b) :=
  inferInstanceAs (Decidable (_ ≠ _))

theorem atMost_iff (a b : Moment) : a.AtMost b ↔ compare a.inMinute b.inMinute = .lt ∨
    (compare a.inMinute b.inMinute = .eq ∧ a.writtenSecond ≤ b.writtenSecond) := by
  rw [AtMost, compare_inSecond]
  cases compare a.inMinute b.inMinute with
  | lt => simp
  | gt => simp
  | eq => simp [Nat.compare_ne_gt]

theorem inSecond_eq_iff (a b : Moment) : a.inSecond = b.inSecond ↔
    compare a.inMinute b.inMinute = .eq ∧ a.writtenSecond = b.writtenSecond := by
  rw [← Std.LawfulEqOrd.compare_eq_iff_eq (a := a.inSecond), compare_inSecond]
  cases compare a.inMinute b.inMinute with
  | lt => simp
  | gt => simp
  | eq => simp

/-- What is left of a moment is not earlier than another moment just if the moment is not, unless it
is a leap second and the other one lies in the same. -/
theorem atMost_truncate_iff (a b : Moment) :
    a.AtMost b.truncate ↔ (a.AtMost b ↔ ¬ (b.IsLeap ∧ a.inSecond = b.inSecond)) := by
  have hminute : b.truncate.inMinute = b.inMinute := rfl
  rw [atMost_iff, atMost_iff, inSecond_eq_iff, hminute, writtenSecond_truncate,
    writtenSecond_eq_add b]
  cases compare a.inMinute b.inMinute with
  | lt => simp
  | gt => simp
  | eq =>
    by_cases hb : b.IsLeap
    · simp [hb]
      omega
    · simp [hb]

/-- What is left of a moment is not later than another moment just if the moment is not, unless it
is a leap second and the other one lies in the second before. -/
theorem truncate_atMost_iff (a b : Moment) :
    a.truncate.AtMost b ↔ (a.AtMost b ↔ ¬ (a.IsLeap ∧ a.truncate.inSecond = b.inSecond)) := by
  have hminute : a.truncate.inMinute = a.inMinute := rfl
  rw [atMost_iff, atMost_iff, inSecond_eq_iff, hminute, writtenSecond_truncate,
    writtenSecond_eq_add a]
  cases compare a.inMinute b.inMinute with
  | lt => simp
  | gt => simp
  | eq =>
    by_cases ha : a.IsLeap
    · simp [ha]
      omega
    · simp [ha]

/-- An earlier year is earlier. -/
theorem compare_inSecond_of_year_lt (h : a.year < b.year) :
    compare a.inSecond b.inSecond = .lt := by
  have hyears : compare a.year b.year = .lt := compareOfLessAndEq_eq_lt.mpr h
  show compare (a.year :: _) (b.year :: _) = .lt
  rw [List.compare_cons_cons, hyears, Ordering.lt_then]

/-! ### Years with signs -/

/-- Dates are compared by the texts of their years and what is behind those. -/
theorem compare_stamp_eq_append (a b : Moment) : compare a.stamp b.stamp =
    compare (yearDigits a.year ++ a.behindYear) (yearDigits b.year ++ b.behindYear) := by
  rw [← compare_toList, toList_stamp_eq_append, toList_stamp_eq_append]

/-- Dates of one year are in the order of time, whatever that year is. -/
theorem compare_stamp_of_year_eq (h : a.year = b.year) :
    compare a.stamp b.stamp = compare a.inSecond b.inSecond := by
  have hbehind := compare_map_behindYear keepsDigits_id a b
  rw [List.map_id', List.map_id'] at hbehind
  rw [compare_stamp_eq_append, compare_inSecond_eq_then, h, compare_append_left, hbehind,
    Std.ReflOrd.compare_self, Ordering.eq_then]

/-- Dates of different years have different texts. -/
theorem stamp_ne_of_year_ne (h : a.year ≠ b.year) : a.stamp ≠ b.stamp := by
  intro hstamp
  rw [← String.toList_inj, toList_stamp_eq_append, toList_stamp_eq_append] at hstamp
  have hlength : a.behindYear.length = b.behindYear.length := by
    rw [length_behindYear, length_behindYear]
  exact h (yearDigits_injective (List.append_inj_left' hstamp hlength))

/-- A date of an earlier year, which is the first, is written behind a date of a later year. -/
inductive Inverts (a b : Moment) : Prop
  /-- The plus sign of a late year stands before the minus sign and before every digit. -/
  | late (ha : a.year ≤ 9999) (hb : 9999 < b.year)
  /-- Behind the minus sign the digits count backwards, where there are as many of them. -/
  | early (hlt : a.year < b.year) (hb : b.year < 0)
    (hwidth : (yearDigits a.year).length = (yearDigits b.year).length)
  /-- Years of one sign are compared from the left, where one has more digits. -/
  | uneven (hlt : a.year < b.year) (hsign : b.year < 0 ∨ 9999 < a.year)
    (hwidth : (yearDigits a.year).length ≠ (yearDigits b.year).length)
    (hfront : ¬ yearDigits a.year <+: yearDigits b.year)
    (hfront' : ¬ yearDigits b.year <+: yearDigits a.year)
    (h : compare (yearDigits b.year) (yearDigits a.year) = .lt)
  /-- The later year goes on where the earlier one ends, and its digits are compared with the month
  behind that and what follows. -/
  | longer (hlt : a.year < b.year) (hsign : b.year < 0 ∨ 9999 < a.year) {more : List Char}
    (hfront : yearDigits b.year = yearDigits a.year ++ more)
    (h : compare (more ++ b.behindYear) a.behindYear = .lt)
  /-- The later year ends where the earlier one goes on. -/
  | shorter (hlt : a.year < b.year) (hsign : b.year < 0 ∨ 9999 < a.year) {more : List Char}
    (hfront : yearDigits a.year = yearDigits b.year ++ more)
    (h : compare b.behindYear (more ++ a.behindYear) = .lt)

/-- The texts of two dates are not in the order of their years. -/
def YearsStray (a b : Moment) : Prop :=
  a.Inverts b ∨ b.Inverts a

theorem Inverts.year_lt (h : a.Inverts b) : a.year < b.year := by
  cases h with
  | late ha hb => exact ha.trans_lt hb
  | early hlt | uneven hlt | longer hlt | shorter hlt => exact hlt

theorem not_yearsStray_of_year_eq (h : a.year = b.year) : ¬ a.YearsStray b := by
  rintro (h' | h')
  · exact h'.year_lt.ne h
  · exact h'.year_lt.ne' h

/-- A year that has a sign stands before every year that has none. -/
theorem compare_stamp_of_signed (ha : ¬ a.HasPlainYear) (hb : b.HasPlainYear) :
    compare a.stamp b.stamp = .lt := by
  obtain ⟨c, r, hcr⟩ := List.exists_cons_of_ne_nil (paddedDigits_ne_nil 4 b.year.toNat)
  have hc : isAsciiDigit c = true :=
    isAsciiDigit_of_mem_paddedDigits (by rw [hcr]; exact List.mem_cons_self ..)
  have hsign : compare (if a.year < 0 then '-' else '+') c = .lt := by
    have hzero := (isAsciiDigit_iff.mp hc).1
    rw [compare_lt_iff_lt]
    refine lt_of_lt_of_le ?_ (show '0' ≤ c from hzero)
    split <;> decide
  rw [compare_stamp_eq_append, yearDigits_of_signed ha, yearDigits_of_plain hb, hcr,
    List.cons_append, List.cons_append, List.compare_cons_cons, hsign, Ordering.lt_then]

theorem yearDigits_of_neg {year : Int} (h : year < 0) :
    yearDigits year = '-' :: paddedDigits 4 year.natAbs := by
  rw [yearDigits_of_signed (by omega), if_pos h]

theorem yearDigits_of_late {year : Int} (h : 9999 < year) :
    yearDigits year = '+' :: paddedDigits 4 year.natAbs := by
  rw [yearDigits_of_signed (by omega), if_neg (by omega)]

/-- A late year stands before every year that is not late. -/
theorem compare_stamp_of_late (ha : a.year ≤ 9999) (hb : 9999 < b.year) :
    compare b.stamp a.stamp = .lt := by
  have hsigned : ¬ b.HasPlainYear := fun hplain => absurd hplain.2 (not_le.mpr hb)
  rcases lt_or_ge a.year 0 with hneg | hpos
  · have hsign : compare '+' '-' = .lt := by decide
    rw [compare_stamp_eq_append, yearDigits_of_late hb, yearDigits_of_neg hneg, List.cons_append,
      List.cons_append, List.compare_cons_cons, hsign, Ordering.lt_then]
  · exact compare_stamp_of_signed hsigned ⟨hpos, ha⟩

/-- Years that have one sign and as many digits are compared as numbers without the sign. -/
theorem compare_stamp_of_sign {sign : Char} {m n : Nat}
    (ha : yearDigits a.year = sign :: paddedDigits 4 m)
    (hb : yearDigits b.year = sign :: paddedDigits 4 n)
    (hwidth : (yearDigits a.year).length = (yearDigits b.year).length) :
    compare a.stamp b.stamp = (compare m n).then (compare a.behindYear b.behindYear) := by
  have hlength : (paddedDigits 4 m).length = (paddedDigits 4 n).length := by
    rw [ha, hb] at hwidth
    exact Nat.succ.inj hwidth
  have hdigits : compare (paddedDigits 4 m) (paddedDigits 4 n) = compare m n := by
    have hmap := compare_map_digits keepsDigits_id (fun _ => isAsciiDigit_of_mem_paddedDigits)
      (fun _ => isAsciiDigit_of_mem_paddedDigits) hlength
    rwa [List.map_id', List.map_id', digitsValue_paddedDigits, digitsValue_paddedDigits] at hmap
  rw [compare_stamp_eq_append, compare_append_of_length_eq hwidth, ha, hb, List.compare_cons_cons,
    Std.ReflOrd.compare_self, Ordering.eq_then, hdigits]

/-- Every date of an earlier year stands before a date whose year has no sign. -/
theorem compare_stamp_of_year_lt (hlt : a.year < b.year) (hb : b.HasPlainYear) :
    compare a.stamp b.stamp = .lt := by
  by_cases ha : a.HasPlainYear
  · rw [compare_stamp ha hb, compare_inSecond_of_year_lt hlt]
  · exact compare_stamp_of_signed ha hb

/-- **When a date of an earlier year is written behind one of a later year.** -/
theorem compare_stamp_eq_gt_iff (hlt : a.year < b.year) :
    compare a.stamp b.stamp = .gt ↔ a.Inverts b := by
  rw [Std.OrientedCmp.gt_iff_lt]
  constructor
  · intro h
    have hnotlt : compare a.stamp b.stamp ≠ .lt := by
      rw [Std.OrientedCmp.gt_iff_lt.mpr h]
      decide
    by_cases hlate : a.year ≤ 9999 ∧ 9999 < b.year
    · exact .late hlate.1 hlate.2
    have hsign : b.year < 0 ∨ 9999 < a.year := by
      by_contra hsign
      exact hnotlt (compare_stamp_of_year_lt hlt (by rw [HasPlainYear]; omega))
    rw [compare_stamp_eq_append] at h
    by_cases hlonger : yearDigits a.year <+: yearDigits b.year
    · obtain ⟨more, hmore⟩ := hlonger
      rw [← hmore, List.append_assoc, compare_append_left] at h
      exact .longer hlt hsign hmore.symm h
    by_cases hshorter : yearDigits b.year <+: yearDigits a.year
    · obtain ⟨more, hmore⟩ := hshorter
      rw [← hmore, List.append_assoc, compare_append_left] at h
      exact .shorter hlt hsign hmore.symm h
    by_cases hwidth : (yearDigits a.year).length = (yearDigits b.year).length
    · refine .early hlt (hsign.resolve_right fun hlate => hnotlt ?_) hwidth
      have hyears : compare a.year.natAbs b.year.natAbs = .lt := Nat.compare_eq_lt.mpr (by omega)
      rw [compare_stamp_of_sign (yearDigits_of_late hlate) (yearDigits_of_late (hlate.trans hlt))
        hwidth, hyears, Ordering.lt_then]
    · rw [compare_append_of_fronts hshorter hlonger] at h
      exact .uneven hlt hsign hwidth hlonger hshorter h
  · intro h
    cases h with
    | late ha hb => exact compare_stamp_of_late ha hb
    | early _ hb hwidth =>
      have hyears : compare b.year.natAbs a.year.natAbs = .lt := Nat.compare_eq_lt.mpr (by omega)
      rw [compare_stamp_of_sign (yearDigits_of_neg hb) (yearDigits_of_neg (hlt.trans hb))
        hwidth.symm, hyears, Ordering.lt_then]
    | uneven _ _ _ hlonger hshorter h =>
      rw [compare_stamp_eq_append, compare_append_of_fronts hshorter hlonger, h]
    | longer _ _ hmore h =>
      rw [compare_stamp_eq_append, hmore, List.append_assoc, compare_append_left, h]
    | shorter _ _ hmore h =>
      rw [compare_stamp_eq_append, hmore, List.append_assoc, compare_append_left, h]

/-- **The order of all texts of dates**: they are in the order of time, unless those of the years
are not. -/
theorem compare_stamp_ne_gt_iff (a b : Moment) :
    compare a.stamp b.stamp ≠ .gt ↔ (a.AtMost b ↔ ¬ a.YearsStray b) := by
  rcases lt_trichotomy a.year b.year with hlt | heq | hgt
  · have htime : a.AtMost b := by
      rw [AtMost, compare_inSecond_of_year_lt hlt]
      decide
    have hone : ¬ b.Inverts a := fun h => h.year_lt.not_gt hlt
    rw [Ne, compare_stamp_eq_gt_iff hlt, YearsStray, or_iff_left hone, iff_true_left htime]
  · rw [compare_stamp_of_year_eq heq, iff_true_right (not_yearsStray_of_year_eq heq), AtMost]
  · have htime : ¬ a.AtMost b := by
      rw [AtMost, not_not]
      exact Std.OrientedCmp.gt_iff_lt.mpr (compare_inSecond_of_year_lt hgt)
    have hone : ¬ a.Inverts b := fun h => h.year_lt.not_gt hgt
    have hne : compare a.stamp b.stamp ≠ .eq := fun h =>
      stamp_ne_of_year_ne hgt.ne' (Std.LawfulEqOrd.eq_of_compare h)
    rw [YearsStray, or_iff_right hone, ← compare_stamp_eq_gt_iff hgt, Std.OrientedCmp.gt_iff_lt,
      iff_false_left htime, not_not]
    cases hab : compare a.stamp b.stamp with
    | lt => simp
    | gt => simp
    | eq => exact absurd hab hne

theorem not_yearsStray (ha : a.HasPlainYear) (hb : b.HasPlainYear) : ¬ a.YearsStray b := by
  have hplain {x y : Moment} (hy : y.HasPlainYear) : ¬ x.Inverts y := fun h => by
    have hgt := (compare_stamp_eq_gt_iff h.year_lt).mpr h
    rw [compare_stamp_of_year_lt h.year_lt hy] at hgt
    cases hgt
  rintro (h | h)
  · exact hplain hb h
  · exact hplain ha h

end Moment

end Catalog
