import Catalog.Clause.Descriptor
import Catalog.Proofs.Calendar.Order
import Catalog.Proofs.Decimal.Rounding
import Catalog.Query.Match

/-!
# Ranges of numbers and dates

A range compares terms, and what it should compare are exact numbers and moments. The two are the
same for the integers. Among doubles the terms tell the zeros apart and have a place for what is
not a number, an integer that bounds doubles is rounded first, and the term of a date has lost a
leap second and begins with the text of a year, which may have a sign. So an end of a range may
stray from a value, in these cases and in no other.

## Main definitions

* `Quantity`: a number or a date that an end of a range or a record has
* `Quantity.AtMost`: the order of exact numbers, and that of dates up to the second
* `Quantity.StraysBelow`, `Quantity.StraysAbove`: the cases in which terms are ordered otherwise
* `Quantity.IsAsked`, `Quantity.IsKept`: the terms of an end of a range and of a value

## Main results

* `Quantity.admitsAbove_iff`, `Quantity.admitsBelow_iff`: how an end of a range and a value compare
* `Binding.exists_of_rangeQuery`: what a range clause is compiled to
* `Binding.accepts_rangeQuery_iff`: what it accepts
-/

namespace Catalog

/-- A number or a date. -/
inductive Quantity where
  | integer (n : ℤ)
  | float (x : Double)
  | date (m : Moment)

namespace Quantity

/-- The exact number that a quantity is, none if it is a date or not a number. -/
noncomputable def number? : Quantity → Option EReal
  | integer n => some (n : ℝ)
  | float x => x.number?
  | date _ => none

/-- Whether a quantity is a double that is not a number. -/
def IsNan : Quantity → Prop
  | float x => x.number? = none
  | integer _ | date _ => False

/-- Whether a quantity is not greater than another one: numbers are compared as what they exactly
are, and dates in the order of time up to the second. -/
def AtMost : Quantity → Quantity → Prop
  | date a, date b => a.AtMost b
  | p, q => ∃ a ∈ p.number?, ∃ b ∈ q.number?, a ≤ b

/-- When the lower end of a range, which is the first, is not told as it should be from a value. -/
inductive StraysBelow : Quantity → Quantity → Prop
  /-- The zero with the sign stands before the other one. -/
  | zero {x y : Double} (hx : x = .zero) (hy : y = .negativeZero) : StraysBelow (float x) (float y)
  | zeroInteger {n : ℤ} {y : Double} (hn : n = 0) (hy : y = .negativeZero) :
    StraysBelow (integer n) (float y)
  /-- What is not a number and has the sign stands before everything. -/
  | nan {x : Double} {v : Quantity} (h : x.number? = none) (hsign : x.isNegative = true) :
    StraysBelow (float x) v
  /-- An integer is rounded to a double that is less. -/
  | rounded {n : Int64} {k : ℤ} {y : Double} {b : EReal} (hn : k = n.toInt)
    (hb : y.number? = some b) (hlt : b < (k : ℝ)) (hy : y = .ofInt64 n) :
    StraysBelow (integer k) (float y)
  /-- A leap second is kept as the second before it. -/
  | leap {l m : Moment} (hleap : m.IsLeap) (h : l.inSecond = m.inSecond) :
    StraysBelow (date l) (date m)
  /-- The texts of the years, with what is kept of the value, are not in the order of time. -/
  | years {l m : Moment} (h : l.YearsStray m.truncate) : StraysBelow (date l) (date m)

/-- When the upper end of a range, which is the second, is not told as it should be from a value. -/
inductive StraysAbove : Quantity → Quantity → Prop
  /-- The zero with the sign stands before the other one. -/
  | zero {x y : Double} (hx : x = .zero) (hy : y = .negativeZero) : StraysAbove (float x) (float y)
  /-- What is not a number and does not have the sign stands behind everything. -/
  | nan {y : Double} {v : Quantity} (h : y.number? = none) (hsign : y.isNegative = false) :
    StraysAbove v (float y)
  /-- An integer is rounded to a double that is greater. -/
  | rounded {n : Int64} {k : ℤ} {x : Double} {a : EReal} (hn : k = n.toInt)
    (ha : x.number? = some a) (hlt : (k : ℝ) < a) (hx : x = .ofInt64 n) :
    StraysAbove (float x) (integer k)
  /-- A leap second is kept as the second before it. -/
  | leap {m u : Moment} (hleap : m.IsLeap) (h : m.truncate.inSecond = u.inSecond) :
    StraysAbove (date m) (date u)
  /-- The texts of the years, with what is kept of the value, are not in the order of time. -/
  | years {m u : Moment} (h : m.truncate.YearsStray u) : StraysAbove (date m) (date u)

/-- The terms of the ends of a range, by the type of the field. -/
inductive IsAsked : Quantity → Payload → Prop
  | signed (n : Int64) : IsAsked (integer n.toInt) (.signed n)
  | unsigned (n : Int64) (h : 0 ≤ n.toInt) : IsAsked (integer n.toInt) (.unsigned n.toUInt64)
  | rounded (n : Int64) : IsAsked (integer n.toInt) (.double (.ofInt64 n))
  | double (x : Double) : IsAsked (float x) (.double x)
  | text (m : Moment) : IsAsked (date m) (.text m.stamp)

/-- The terms of the values of records. -/
inductive IsKept : Quantity → Payload → Prop
  | signed (n : Int64) : IsKept (integer n.toInt) (.signed n)
  | unsigned (n : UInt64) : IsKept (integer n.toNat) (.unsigned n)
  | double (x : Double) : IsKept (float x) (.double x)
  | text (m : Moment) : IsKept (date m) (.text m.truncate.stamp)

/-! ### Numbers -/

theorem integer_atMost_integer_iff (a b : ℤ) : (integer a).AtMost (integer b) ↔ a ≤ b := by
  simp [AtMost, number?, EReal.coe_le_coe_iff]

theorem atMost_float_iff {p : Quantity} {a b : EReal} {y : Double} (hp : p.number? = some a)
    (hy : y.number? = some b) : p.AtMost (float y) ↔ a ≤ b := by
  cases p with
  | date m => cases hp
  | _ => simp [AtMost, hp, show (float y).number? = some b from hy]

theorem float_atMost_iff {q : Quantity} {a b : EReal} {x : Double} (hx : x.number? = some a)
    (hq : q.number? = some b) : (float x).AtMost q ↔ a ≤ b := by
  cases q with
  | date m => cases hq
  | _ => simp [AtMost, hq, show (float x).number? = some a from hx]

theorem not_nan_atMost {x : Double} (hx : x.number? = none) (q : Quantity) :
    ¬ (float x).AtMost q := by
  cases q <;> simp [AtMost, show (float x).number? = none from hx]

theorem not_atMost_nan {y : Double} (hy : y.number? = none) (p : Quantity) :
    ¬ p.AtMost (float y) := by
  cases p <;> simp [AtMost, show (float y).number? = none from hy]

/-- Integers do not stray from integers. -/
theorem not_straysBelow_integer (a b : ℤ) : ¬ (integer a).StraysBelow (integer b) := nofun

theorem not_straysAbove_integer (a b : ℤ) : ¬ (integer a).StraysAbove (integer b) := nofun

theorem compare_ne_gt_iff (a b : ℤ) : (compare a b != .gt) = true ↔ a ≤ b := by
  rw [bne_iff_ne, Ne, Int.compare_eq_gt, not_lt]

theorem compare_natCast_ne_gt_iff (a b : ℕ) : (compare a b != .gt) = true ↔ (a : ℤ) ≤ b := by
  rw [bne_iff_ne, Nat.compare_ne_gt, Nat.cast_le]

theorem toNat_toUInt64 {n : Int64} (h : 0 ≤ n.toInt) : (n.toUInt64.toNat : ℤ) = n.toInt := by
  rw [Double.toNat_toUInt64_of_pos h, Int.natAbs_of_nonneg h]

section Doubles

variable {x y : Double} {a b : EReal}

theorem straysBelow_float_iff : (float x).StraysBelow (float y) ↔
    x = .zero ∧ y = .negativeZero ∨ x.number? = none ∧ x.isNegative = true := by
  constructor
  · intro h
    cases h with
    | zero hx hy => exact .inl ⟨hx, hy⟩
    | nan h hsign => exact .inr ⟨h, hsign⟩
  · rintro (⟨hx, hy⟩ | ⟨h, hsign⟩)
    · exact .zero hx hy
    · exact .nan h hsign

theorem straysAbove_float_iff : (float x).StraysAbove (float y) ↔
    x = .zero ∧ y = .negativeZero ∨ y.number? = none ∧ y.isNegative = false := by
  constructor
  · intro h
    cases h with
    | zero hx hy => exact .inl ⟨hx, hy⟩
    | nan h hsign => exact .inr ⟨h, hsign⟩
  · rintro (⟨hx, hy⟩ | ⟨h, hsign⟩)
    · exact .zero hx hy
    · exact .nan h hsign

/-- Doubles that are numbers stray at the zeros only. -/
theorem order_le_iff_of_zeros (hx : x.number? = some a) (hy : y.number? = some b) :
    x.order ≤ y.order ↔ (a ≤ b ↔ ¬ (x = .zero ∧ y = .negativeZero)) := by
  rw [Double.order_le_order_iff, Double.le_iff_level_le hx hy]
  constructor
  · rintro ⟨hle, hzeros⟩
    exact iff_of_true hle hzeros
  · intro h
    by_cases hzeros : x = .zero ∧ y = .negativeZero
    · obtain ⟨rfl, rfl⟩ := hzeros
      exact absurd (h.mp (by decide +kernel)) (not_not_intro ⟨rfl, rfl⟩)
    · exact ⟨h.mpr hzeros, hzeros⟩

theorem float_admitsAbove_iff (hy : y.number? = some b) :
    x.order ≤ y.order ↔ ((float x).AtMost (float y) ↔ ¬ (float x).StraysBelow (float y)) := by
  rw [straysBelow_float_iff]
  cases hx : x.number? with
  | some a =>
    rw [atMost_float_iff (p := float x) hx hy, order_le_iff_of_zeros hx hy]
    simp
  | none =>
    have hend := Double.order_of_number?_eq_none hx hy
    have hzero : x ≠ .zero := by
      rintro rfl
      rw [Double.number?_zero] at hx
      cases hx
    cases hsign : x.isNegative with
    | true =>
      rw [hsign, if_pos rfl] at hend
      simp [hzero, not_nan_atMost hx, hend.le]
    | false =>
      rw [hsign, if_neg Bool.false_ne_true] at hend
      simp [hzero, not_nan_atMost hx, hend]

theorem float_admitsBelow_iff (hx : x.number? = some a) :
    x.order ≤ y.order ↔ ((float x).AtMost (float y) ↔ ¬ (float x).StraysAbove (float y)) := by
  rw [straysAbove_float_iff]
  cases hy : y.number? with
  | some b =>
    rw [float_atMost_iff (q := float y) hx hy, order_le_iff_of_zeros hx hy]
    simp
  | none =>
    have hend := Double.order_of_number?_eq_none hy hx
    have hzero : y ≠ .negativeZero := by
      rintro rfl
      rw [Double.number?_negativeZero] at hy
      cases hy
    cases hsign : y.isNegative with
    | true =>
      rw [hsign, if_pos rfl] at hend
      simp [hzero, not_atMost_nan hy, hend]
    | false =>
      rw [hsign, if_neg Bool.false_ne_true] at hend
      simp [hzero, not_atMost_nan hy, hend.le]

/-- An integer as the lower end of a range of doubles. -/
theorem integer_admitsAbove_iff {n : Int64} (hy : y.number? = some b) :
    (Double.ofInt64 n).order ≤ y.order ↔
      ((integer n.toInt).AtMost (float y) ↔ ¬ (integer n.toInt).StraysBelow (float y)) := by
  have hstrays : (integer n.toInt).StraysBelow (float y) ↔
      n.toInt = 0 ∧ y = .negativeZero ∨ b < (n.toInt : ℝ) ∧ y = .ofInt64 n := by
    constructor
    · intro h
      cases h with
      | zeroInteger hn hy => exact .inl ⟨hn, hy⟩
      | rounded hn hb hlt hx =>
        obtain rfl := Option.some.inj (hb.symm.trans hy)
        rw [← Int64.toInt_inj.mp hn] at hx
        exact .inr ⟨hlt, hx⟩
    · rintro (⟨hn, hy⟩ | ⟨hlt, hx⟩)
      · exact .zeroInteger hn hy
      · exact .rounded rfl hy hlt hx
  rw [atMost_float_iff (p := integer n.toInt) rfl hy, Double.order_ofInt64_le_iff n hy, hstrays]
  rcases le_or_gt ((n.toInt : ℝ) : EReal) b with hle | hlt
  · simp [hle, hle.not_gt]
  · have hzero : ¬ (n.toInt = 0 ∧ y = .negativeZero) := by
      rintro ⟨hn, rfl⟩
      obtain rfl := Option.some.inj (Double.number?_negativeZero.symm.trans hy)
      rw [hn, Int.cast_zero, EReal.coe_zero] at hlt
      exact lt_irrefl _ hlt
    simp [hlt, hlt.not_ge, hzero]

/-- An integer as the upper end of a range of doubles. -/
theorem integer_admitsBelow_iff {n : Int64} (hx : x.number? = some a) :
    x.order ≤ (Double.ofInt64 n).order ↔
      ((float x).AtMost (integer n.toInt) ↔ ¬ (float x).StraysAbove (integer n.toInt)) := by
  have hstrays : (float x).StraysAbove (integer n.toInt) ↔
      ((n.toInt : ℝ) : EReal) < a ∧ x = .ofInt64 n := by
    constructor
    · intro h
      cases h with
      | rounded hn ha hlt hx' =>
        obtain rfl := Option.some.inj (ha.symm.trans hx)
        rw [← Int64.toInt_inj.mp hn] at hx'
        exact ⟨hlt, hx'⟩
    · rintro ⟨hlt, hx'⟩
      exact .rounded rfl hx hlt hx'
  rw [float_atMost_iff (q := integer n.toInt) hx rfl, Double.order_le_ofInt64_iff n hx, hstrays]
  rcases le_or_gt a ((n.toInt : ℝ) : EReal) with hle | hlt
  · simp [hle, hle.not_gt]
  · simp [hlt, hlt.not_ge]

end Doubles

/-! ### Dates -/

section Dates

variable {a b : Moment}

theorem straysBelow_date_iff : (date a).StraysBelow (date b) ↔
    (b.IsLeap ∧ a.inSecond = b.inSecond) ∨ a.YearsStray b.truncate := by
  constructor
  · intro h
    cases h with
    | leap hleap h => exact .inl ⟨hleap, h⟩
    | years h => exact .inr h
  · rintro (⟨hleap, h⟩ | h)
    · exact .leap hleap h
    · exact .years h

theorem straysAbove_date_iff : (date a).StraysAbove (date b) ↔
    (a.IsLeap ∧ a.truncate.inSecond = b.inSecond) ∨ a.truncate.YearsStray b := by
  constructor
  · intro h
    cases h with
    | leap hleap h => exact .inl ⟨hleap, h⟩
    | years h => exact .inr h
  · rintro (⟨hleap, h⟩ | h)
    · exact .leap hleap h
    · exact .years h

/-- Two dates, each as it is kept or asked for, are told from one another as they should be unless
their years stray or what tells them apart is lost, which happens within one second only. -/
theorem compare_stamp_iff {x y : Moment} {isLost : Prop} (hlost : isLost → x.year = y.year)
    (hatMost : x.AtMost y ↔ (a.AtMost b ↔ ¬ isLost)) :
    compare x.stamp y.stamp ≠ .gt ↔ (a.AtMost b ↔ ¬ (isLost ∨ x.YearsStray y)) := by
  rw [Moment.compare_stamp_ne_gt_iff, hatMost]
  by_cases h : isLost
  · simp [h, Moment.not_yearsStray_of_year_eq (hlost h)]
  · simp [h]

/-- Dates in one second are in one year. -/
theorem year_eq_of_inSecond (h : a.inSecond = b.inSecond) : a.year = b.year :=
  (List.cons.inj h).1

theorem date_admitsAbove_iff : compare a.stamp b.truncate.stamp ≠ .gt ↔
    ((date a).AtMost (date b) ↔ ¬ (date a).StraysBelow (date b)) := by
  rw [straysBelow_date_iff]
  have hyear (h : b.IsLeap ∧ a.inSecond = b.inSecond) : a.year = b.year := year_eq_of_inSecond h.2
  exact compare_stamp_iff hyear (Moment.atMost_truncate_iff a b)

theorem date_admitsBelow_iff : compare a.truncate.stamp b.stamp ≠ .gt ↔
    ((date a).AtMost (date b) ↔ ¬ (date a).StraysAbove (date b)) := by
  rw [straysAbove_date_iff]
  exact compare_stamp_iff (fun h => year_eq_of_inSecond (a := a.truncate) h.2)
    (Moment.truncate_atMost_iff a b)

end Dates

/-! ### Ends of a range -/

/-- **How the lower end of a range and a value compare**: as they should, unless the end strays. -/
theorem admitsAbove_iff {l v : Quantity} {p p' : Payload} (hl : l.IsAsked p) (hv : v.IsKept p')
    (htype : p.type = p'.type) (hnan : ¬ v.IsNan) :
    (RangeEnd.included p).admitsAbove p' = true ↔ (l.AtMost v ↔ ¬ l.StraysBelow v) := by
  cases hv with
  | signed m =>
    cases hl with
    | signed n =>
      rw [iff_true_right (not_straysBelow_integer _ _), integer_atMost_integer_iff]
      exact compare_ne_gt_iff _ _
    | _ => cases htype
  | unsigned m =>
    cases hl with
    | unsigned n hn =>
      rw [iff_true_right (not_straysBelow_integer _ _), integer_atMost_integer_iff,
        ← toNat_toUInt64 hn]
      exact compare_natCast_ne_gt_iff _ _
    | _ => cases htype
  | double y =>
    obtain ⟨b, hb⟩ := Option.ne_none_iff_exists'.mp hnan
    cases hl with
    | double x => exact (compare_ne_gt_iff _ _).trans (float_admitsAbove_iff hb)
    | rounded n => exact (compare_ne_gt_iff _ _).trans (integer_admitsAbove_iff hb)
    | _ => cases htype
  | text m =>
    cases hl with
    | text l => exact bne_iff_ne.trans date_admitsAbove_iff
    | _ => cases htype

/-- **How the upper end of a range and a value compare**: as they should, unless the end strays. -/
theorem admitsBelow_iff {v u : Quantity} {p p' : Payload} (hv : v.IsKept p) (hu : u.IsAsked p')
    (htype : p'.type = p.type) (hnan : ¬ v.IsNan) :
    (RangeEnd.included p').admitsBelow p = true ↔ (v.AtMost u ↔ ¬ v.StraysAbove u) := by
  cases hv with
  | signed m =>
    cases hu with
    | signed n =>
      rw [iff_true_right (not_straysAbove_integer _ _), integer_atMost_integer_iff]
      exact compare_ne_gt_iff _ _
    | _ => cases htype
  | unsigned m =>
    cases hu with
    | unsigned n hn =>
      rw [iff_true_right (not_straysAbove_integer _ _), integer_atMost_integer_iff,
        ← toNat_toUInt64 hn]
      exact compare_natCast_ne_gt_iff _ _
    | _ => cases htype
  | double x =>
    obtain ⟨a, ha⟩ := Option.ne_none_iff_exists'.mp hnan
    cases hu with
    | double y => exact (compare_ne_gt_iff _ _).trans (float_admitsBelow_iff ha)
    | rounded n => exact (compare_ne_gt_iff _ _).trans (integer_admitsBelow_iff ha)
    | _ => cases htype
  | text m =>
    cases hu with
    | text u => exact bne_iff_ne.trans date_admitsBelow_iff
    | _ => cases htype

/-- Among years of four digits a date strays only if it is a leap second. -/
theorem not_straysBelow_date {l m : Moment} (hl : l.HasPlainYear) (hm : m.HasPlainYear)
    (hleap : ¬ m.IsLeap) : ¬ (date l).StraysBelow (date m) := by
  intro h
  cases h with
  | leap h _ => exact hleap h
  | years h => exact Moment.not_yearsStray (b := m.truncate) hl hm h

theorem not_straysAbove_date {m u : Moment} (hm : m.HasPlainYear) (hu : u.HasPlainYear)
    (hleap : ¬ m.IsLeap) : ¬ (date m).StraysAbove (date u) := by
  intro h
  cases h with
  | leap h _ => exact hleap h
  | years h => exact Moment.not_yearsStray (a := m.truncate) hm hu h

end Quantity

/-! ### Range clauses -/

/-- The lower end of a range. -/
def RangeBounds.lower : RangeBounds → Quantity
  | int lower _ => .integer lower.toInt
  | double lower _ => .float lower
  | date lower _ => .date lower

/-- The upper end of a range. -/
def RangeBounds.upper : RangeBounds → Quantity
  | int _ upper => .integer upper.toInt
  | double _ upper => .float upper
  | date _ upper => .date upper

/-- Whether there are ranges of a kind. -/
def FieldKind.isRanged : FieldKind → Bool
  | int | uint | float | date => true
  | identity | text | geo | structured => false

/-- **What a range clause is compiled to**: a range of the terms of its ends, which are of the type
of the field. There are ranges of numbers and dates only. -/
theorem Binding.exists_of_rangeQuery {b : Binding} {bounds : RangeBounds} {q : Query}
    (h : b.rangeQuery bounds = .ok q) : b.kind.isRanged = true ∧ ∃ p p',
      q = .between b.rawField p p' ∧ bounds.lower.IsAsked p ∧ bounds.upper.IsAsked p' ∧
        p.type = b.kind.storeType ∧ p'.type = b.kind.storeType := by
  unfold rangeQuery at h
  cases hkind : b.kind with
  | int =>
    rw [hkind] at h
    cases bounds with
    | int lower upper =>
      cases h
      exact ⟨rfl, _, _, rfl, .signed lower, .signed upper, rfl, rfl⟩
    | _ => cases h
  | uint =>
    rw [hkind] at h
    cases bounds with
    | int lower upper =>
      dsimp only at h
      split at h
      · next hnonneg =>
        cases h
        rw [Bool.and_eq_true, decide_eq_true_iff, decide_eq_true_iff] at hnonneg
        exact ⟨rfl, _, _, rfl, .unsigned lower (Int64.le_iff_toInt_le.mp hnonneg.1),
          .unsigned upper (Int64.le_iff_toInt_le.mp hnonneg.2), rfl, rfl⟩
      · cases h
    | _ => cases h
  | float =>
    rw [hkind] at h
    cases bounds with
    | double lower upper =>
      cases h
      exact ⟨rfl, _, _, rfl, .double lower, .double upper, rfl, rfl⟩
    | int lower upper =>
      cases h
      exact ⟨rfl, _, _, rfl, .rounded lower, .rounded upper, rfl, rfl⟩
    | date lower upper => cases h
  | date =>
    rw [hkind] at h
    cases bounds with
    | date lower upper =>
      cases h
      exact ⟨rfl, _, _, rfl, .text lower, .text upper, rfl, rfl⟩
    | _ => cases h
  | _ =>
    rw [hkind] at h
    cases h

/-- The query of a range clause does not accept an entry that has no value in the field. -/
theorem Binding.accepts_rangeQuery_of_nil {b : Binding} {bounds : RangeBounds} {q : Query}
    (h : b.rangeQuery bounds = .ok q) {e : Entry} (hterms : e.terms b.rawField = [])
    (among : List Entry) : q.accepts among e = false := by
  obtain ⟨-, l, u, rfl, -⟩ := b.exists_of_rangeQuery h
  rw [Query.between, Query.accepts, hterms, List.any_nil]

/-- **What the query of a range clause accepts**, of an entry that has at most one value in the
field. -/
theorem Binding.accepts_rangeQuery_iff {b : Binding} {bounds : RangeBounds} {q : Query}
    (h : b.rangeQuery bounds = .ok q) {e : Entry} {v : Quantity} {p : Payload}
    (hterms : e.terms b.rawField = [p]) (hv : v.IsKept p) (htype : p.type = b.kind.storeType)
    (hnan : ¬ v.IsNan) (among : List Entry) :
    q.accepts among e = true ↔ (bounds.lower.AtMost v ↔ ¬ bounds.lower.StraysBelow v) ∧
      (v.AtMost bounds.upper ↔ ¬ v.StraysAbove bounds.upper) := by
  obtain ⟨-, l, u, rfl, hl, hu, hltype, hutype⟩ := b.exists_of_rangeQuery h
  rw [Query.between, Query.accepts, hterms, List.any_cons, List.any_nil, Bool.or_false,
    Bool.and_eq_true, Quantity.admitsAbove_iff hl hv (hltype.trans htype.symm) hnan,
    Quantity.admitsBelow_iff hv hu (hutype.trans htype.symm) hnan]

end Catalog
