import Catalog.Proofs.Decimal.Widening
import Mathlib.Data.EReal.Basic
import Mathlib.Data.EReal.Operations

/-!
# Doubles as numbers

A double that is a number is one exactly, or an infinity. The magnitude of its bits counts the
doubles from zero, so numbers are in the order of the magnitudes with their signs. The total order
of the bits is the same, except that it tells the two zeros apart and has a place for what is not a
number: at the end that its sign points to.

## Main definitions

* `Binary.Value.number?`, `Double.number?`: the number that a value is
* `Double.magnitude`, `Double.level`: the bits without the sign, and the sign with them
* `Binary.units`: a magnitude as a multiple of the least positive double

## Main results

* `Binary.units_strictMono`: greater magnitudes are greater numbers
* `Double.le_iff_level_le`: doubles compare as numbers by their levels
* `Double.order_le_order_iff`: how the total order differs from the order of the numbers
-/

namespace Catalog

/-- The number that a value is, none if it is not a number. -/
noncomputable def Binary.Value.number? : Binary.Value → Option EReal
  | .nan _ => none
  | .infinite negative => some (if negative then ⊥ else ⊤)
  | .finite negative m e _ =>
    let amount : ℝ := m * 2 ^ e
    some (if negative then -amount else amount : ℝ)

/-- The number that a double is, none if it is not a number. -/
noncomputable def Double.number? (x : Double) : Option EReal := x.value.number?

namespace Binary

/-! ### Magnitudes -/

/-- The magnitude of infinity. -/
def top : ℕ := 2047 * 2 ^ 52

/-- The magnitude of a double as a multiple of the least positive double. -/
def units (magnitude : ℕ) : ℕ :=
  if magnitude < 2 ^ 52 then magnitude
  else (2 ^ 52 + magnitude % 2 ^ 52) * 2 ^ (magnitude / 2 ^ 52 - 1)

/-- A mantissa with a leading bit behind an exponent. One more bit of the mantissa is carried over
to the exponent. -/
theorem units_mul_add {e m : ℕ} (hm : 2 ^ 52 ≤ m) (hm' : m ≤ 2 ^ 53) :
    units (e * 2 ^ 52 + m) = m * 2 ^ e := by
  rw [units, if_neg (by omega)]
  rcases Nat.lt_or_ge m (2 ^ 53) with hlt | hge
  · have hdiv : (e * 2 ^ 52 + m) / 2 ^ 52 - 1 = e := by omega
    have hmod : 2 ^ 52 + (e * 2 ^ 52 + m) % 2 ^ 52 = m := by omega
    rw [hdiv, hmod]
  · obtain rfl : m = 2 ^ 53 := Nat.le_antisymm hm' hge
    have hdiv : (e * 2 ^ 52 + 2 ^ 53) / 2 ^ 52 - 1 = e + 1 := by omega
    have hmod : 2 ^ 52 + (e * 2 ^ 52 + 2 ^ 53) % 2 ^ 52 = 2 ^ 52 := by omega
    rw [hdiv, hmod, Nat.pow_succ 2 e]
    omega

/-- **Greater magnitudes are greater numbers.** -/
theorem units_strictMono : StrictMono units := by
  refine strictMono_nat_of_lt_succ fun n => ?_
  rcases Nat.lt_or_ge n (2 ^ 52) with hlt | hge
  · have hn : units n = n := if_pos hlt
    rcases Nat.lt_or_ge (n + 1) (2 ^ 52) with hlt' | hge'
    · rw [hn, units, if_pos hlt']
      exact Nat.lt_succ_self n
    · have hfirst : units (0 * 2 ^ 52 + (n + 1)) = (n + 1) * 2 ^ 0 :=
        units_mul_add hge' (by omega)
      rw [Nat.zero_mul, Nat.zero_add, Nat.pow_zero, Nat.mul_one] at hfirst
      rw [hn, hfirst]
      exact Nat.lt_succ_self n
  · obtain ⟨e, m, hm, hm', rfl⟩ : ∃ e m, 2 ^ 52 ≤ m ∧ m < 2 ^ 53 ∧ n = e * 2 ^ 52 + m :=
      ⟨n / 2 ^ 52 - 1, 2 ^ 52 + n % 2 ^ 52, by omega, by omega, by omega⟩
    rw [Nat.add_assoc, units_mul_add hm hm'.le, units_mul_add (hm.trans (Nat.le_succ m)) hm']
    exact Nat.mul_lt_mul_of_pos_right (Nat.lt_succ_self m) (Nat.two_pow_pos e)

/-- The number of bits behind the point of the least positive double. -/
def places : ℕ := 1074

/-- One as a multiple of the least positive double. -/
def unitsOfOne : ℕ := 2 ^ places

theorem unitsOfOne_pos : 0 < unitsOfOne := Nat.two_pow_pos _

theorem cast_unitsOfOne_pos : (0 : ℝ) < unitsOfOne := Nat.cast_pos.mpr unitsOfOne_pos

theorem two_zpow_neg (k : ℕ) : (2 : ℝ) ^ (-(k : ℤ)) = ((2 ^ k : ℕ) : ℝ)⁻¹ := by
  rw [zpow_neg, zpow_natCast, Nat.cast_pow, Nat.cast_ofNat]

theorem two_zpow_least : (2 : ℝ) ^ (-1074 : ℤ) = (unitsOfOne : ℝ)⁻¹ := two_zpow_neg places

/-- The number of a magnitude. -/
noncomputable def amount (magnitude : ℕ) : EReal :=
  if magnitude < top then ((units magnitude / unitsOfOne : ℝ) : EReal) else ⊤

theorem amount_zero : amount 0 = 0 := by
  rw [amount, if_pos (by decide), units, if_pos (by decide), Nat.cast_zero, zero_div,
    EReal.coe_zero]

theorem amount_of_lt {m : ℕ} (h : m < top) :
    amount m = ((units m / unitsOfOne : ℝ) : EReal) := if_pos h

theorem amount_top : amount top = ⊤ := if_neg (lt_irrefl top)

/-- Numbers compare as their magnitudes. -/
theorem amount_le_amount_iff {m n : ℕ} (hm : m ≤ top) (hn : n ≤ top) :
    amount m ≤ amount n ↔ m ≤ n := by
  rcases hm.lt_or_eq with hm | rfl
  · rcases hn.lt_or_eq with hn | rfl
    · rw [amount_of_lt hm, amount_of_lt hn, EReal.coe_le_coe_iff,
        div_le_div_iff_of_pos_right cast_unitsOfOne_pos, Nat.cast_le, units_strictMono.le_iff_le]
    · rw [amount_top]
      exact iff_of_true le_top hm.le
  · rcases hn.lt_or_eq with hn | rfl
    · rw [amount_top, amount_of_lt hn, top_le_iff]
      exact iff_of_false (EReal.coe_ne_top _) hn.not_ge
    · exact iff_of_true le_rfl le_rfl

theorem amount_nonneg (m : ℕ) : 0 ≤ amount m := by
  rw [amount]
  split
  · exact EReal.coe_nonneg.mpr (div_nonneg (Nat.cast_nonneg _) (Nat.cast_nonneg _))
  · exact le_top

/-- The number of an exponent and a fraction. -/
theorem number?_ofFields {negative : Bool} {ex f : ℕ} (hex : ex < 2 ^ 11) (hf : f < 2 ^ 52) :
    (ofFields 52 11 negative ex f).number? =
      if top < ex * 2 ^ 52 + f then none
      else some (if negative then -amount (ex * 2 ^ 52 + f) else amount (ex * 2 ^ 52 + f)) := by
  by_cases hlast : ex = 2 ^ 11 - 1
  · subst hlast
    by_cases hzero : f = 0
    · subst hzero
      have htop : (2 ^ 11 - 1) * 2 ^ 52 + 0 = top := rfl
      rw [ofFields, if_pos rfl, if_pos rfl, htop, if_neg (lt_irrefl top), amount_top,
        Value.number?]
      cases negative <;> rfl
    · rw [ofFields, if_pos rfl, if_neg hzero, if_pos (by rw [top]; omega), Value.number?]
  · have hlt : ex * 2 ^ 52 + f < top := by rw [top]; omega
    have hnumber : ∀ m : ℕ, ∀ e : ℤ, ∀ edge : Bool,
        (m * 2 ^ e : ℝ) = units (ex * 2 ^ 52 + f) / unitsOfOne →
        (Value.finite negative m e edge).number? =
          some (if negative then -amount (ex * 2 ^ 52 + f) else amount (ex * 2 ^ 52 + f)) := by
      intro m e edge hme
      rw [Value.number?, amount_of_lt hlt, hme]
      cases negative with
      | false => rfl
      | true => rw [if_pos rfl, if_pos rfl, EReal.coe_neg]
    rw [if_neg hlt.not_gt, ofFields, if_neg hlast]
    by_cases hfirst : ex = 0
    · subst hfirst
      rw [if_pos rfl]
      refine hnumber _ _ _ ?_
      have hexponent : (2 - 2 ^ (11 - 1) - (52 : ℕ) : ℤ) = -1074 := by norm_num
      rw [Nat.zero_mul, Nat.zero_add, units, if_pos hf, hexponent, two_zpow_least, div_eq_mul_inv]
    · obtain ⟨e, rfl⟩ := Nat.exists_eq_succ_of_ne_zero hfirst
      rw [if_neg hfirst]
      refine hnumber _ _ _ ?_
      have hunits : units (e.succ * 2 ^ 52 + f) = (2 ^ 52 + f) * 2 ^ e := by
        rw [Nat.succ_mul, Nat.add_assoc, units_mul_add (by omega) (by omega)]
      have hexponent : (2 - 2 ^ (11 - 1) - (52 : ℕ) + (e.succ : ℕ) - 1 : ℤ) = e + -1074 := by
        push_cast
        omega
      rw [hunits, hexponent, zpow_add₀ two_ne_zero, zpow_natCast, two_zpow_least, Nat.cast_mul,
        Nat.cast_pow, Nat.cast_ofNat, div_eq_mul_inv, mul_assoc]

end Binary

open Binary

namespace Double

/-! ### Levels -/

/-- The bits of a double without its sign. -/
def magnitude (x : Double) : ℕ := x.bits.toNat % 2 ^ 63

/-- Whether a double has the sign. -/
def isNegative (x : Double) : Bool := 2 ^ 63 ≤ x.bits.toNat

/-- The bits of a double with its sign. Both zeros are zero. -/
def level (x : Double) : ℤ := if x.isNegative then -x.magnitude else x.magnitude

/-- Zero without the sign. -/
def zero : Double := ⟨0⟩

/-- Zero with the sign. -/
def negativeZero : Double := ⟨0x8000000000000000⟩

variable {x y : Double}

theorem bits_eq (x : Double) : x.bits.toNat = signed 52 11 x.isNegative x.magnitude := by
  have := x.bits.toNat_lt
  rw [signed, isNegative, magnitude]
  simp only [decide_eq_true_eq]
  split <;> omega

theorem ext_of_isNegative (hsign : x.isNegative = y.isNegative) (hm : x.magnitude = y.magnitude) :
    x = y := by
  have hbits : x.bits.toNat = y.bits.toNat := by rw [bits_eq, bits_eq, hsign, hm]
  cases x
  cases y
  exact congrArg _ (UInt64.toNat_inj.mp hbits)

theorem number?_eq (x : Double) : x.number? = if top < x.magnitude then none else
    some (if x.isNegative then -amount x.magnitude else amount x.magnitude) := by
  have hmagnitude : x.magnitude < 2 ^ 63 := Nat.mod_lt _ (by decide)
  have hsplit : x.magnitude = x.magnitude / 2 ^ 52 * 2 ^ 52 + x.magnitude % 2 ^ 52 := by omega
  rw [number?, value, bits_eq, hsplit, ofBits_signed (by omega) (by omega),
    number?_ofFields (by omega) (by omega)]

theorem number?_eq_none_iff : x.number? = none ↔ top < x.magnitude := by
  rw [number?_eq]
  split <;> simp_all

/-- A double that is a number has its number from its magnitude. -/
theorem eq_amount_of_number? {a : EReal} (h : x.number? = some a) : x.magnitude ≤ top ∧
    a = if x.isNegative then -amount x.magnitude else amount x.magnitude := by
  rw [number?_eq] at h
  split at h
  · cases h
  · next hle => exact ⟨not_lt.mp hle, (Option.some.inj h).symm⟩

/-- **Doubles compare as numbers by their levels.** -/
theorem le_iff_level_le {a b : EReal} (hx : x.number? = some a) (hy : y.number? = some b) :
    a ≤ b ↔ x.level ≤ y.level := by
  obtain ⟨hxm, rfl⟩ := eq_amount_of_number? hx
  obtain ⟨hym, rfl⟩ := eq_amount_of_number? hy
  have hzero (m : ℕ) (hm : m ≤ top) : amount m ≤ 0 ↔ m = 0 := by
    rw [← amount_zero, amount_le_amount_iff hm (Nat.zero_le _), Nat.le_zero]
  rw [level, level]
  cases x.isNegative with
  | false =>
    cases y.isNegative with
    | false => simpa using amount_le_amount_iff hxm hym
    | true =>
      -- a number that is not negative is at most one that is not positive
      have hboth : amount x.magnitude ≤ -amount y.magnitude ↔
          x.magnitude = 0 ∧ y.magnitude = 0 := by
        rw [← hzero _ hxm, ← hzero _ hym]
        constructor
        · intro h
          exact ⟨h.trans (EReal.neg_le_zero.mpr (amount_nonneg _)),
            EReal.neg_nonneg.mp ((amount_nonneg _).trans h)⟩
        · exact fun h => h.1.trans (EReal.neg_nonneg.mpr h.2)
      simp only [Bool.false_eq_true, if_false, if_true, hboth]
      omega
  | true =>
    cases y.isNegative with
    | false =>
      have hsigns : -amount x.magnitude ≤ amount y.magnitude :=
        (EReal.neg_le_zero.mpr (amount_nonneg _)).trans (amount_nonneg _)
      simp only [if_true, Bool.false_eq_true, if_false]
      exact iff_of_true hsigns (by omega)
    | true =>
      simp only [if_true, EReal.neg_le_neg_iff, amount_le_amount_iff hym hxm]
      omega

/-! ### The total order -/

@[simp] theorem isNegative_zero : zero.isNegative = false := by decide +kernel

@[simp] theorem magnitude_zero : zero.magnitude = 0 := by decide +kernel

@[simp] theorem isNegative_negativeZero : negativeZero.isNegative = true := by decide +kernel

@[simp] theorem magnitude_negativeZero : negativeZero.magnitude = 0 := by decide +kernel

/-- Where a double stands: at its level, or one below if it has the sign. -/
theorem order_cases (x : Double) :
    x.isNegative = false ∧ x.level = x.magnitude ∧ x.order = x.magnitude ∨
      x.isNegative = true ∧ x.level = -x.magnitude ∧ x.order = -x.magnitude - 1 := by
  have := x.bits.toNat_lt
  rw [order, level, isNegative, magnitude]
  by_cases hsign : 2 ^ 63 ≤ x.bits.toNat
  · right
    simp only [hsign, decide_true, if_true, true_and]
    omega
  · left
    simp only [hsign, decide_false, Bool.false_eq_true, if_false, true_and]
    omega

theorem eq_zero_iff : x = zero ↔ x.isNegative = false ∧ x.magnitude = 0 := by
  constructor
  · rintro rfl
    exact ⟨isNegative_zero, magnitude_zero⟩
  · rintro ⟨hsign, hmagnitude⟩
    exact ext_of_isNegative (hsign.trans isNegative_zero.symm)
      (hmagnitude.trans magnitude_zero.symm)

theorem eq_negativeZero_iff : x = negativeZero ↔ x.isNegative = true ∧ x.magnitude = 0 := by
  constructor
  · rintro rfl
    exact ⟨isNegative_negativeZero, magnitude_negativeZero⟩
  · rintro ⟨hsign, hmagnitude⟩
    exact ext_of_isNegative (hsign.trans isNegative_negativeZero.symm)
      (hmagnitude.trans magnitude_negativeZero.symm)

theorem number?_zero : zero.number? = some 0 := by
  rw [number?_eq, magnitude_zero, isNegative_zero, amount_zero, if_neg (Nat.not_lt_zero _),
    if_neg Bool.false_ne_true]

theorem number?_negativeZero : negativeZero.number? = some 0 := by
  rw [number?_eq, magnitude_negativeZero, isNegative_negativeZero, amount_zero,
    if_neg (Nat.not_lt_zero _), if_pos rfl, neg_zero]

/-- **The total order tells the two zeros apart**, and else it is the order of the levels. -/
theorem order_le_order_iff :
    x.order ≤ y.order ↔ x.level ≤ y.level ∧ ¬ (x = zero ∧ y = negativeZero) := by
  rw [eq_zero_iff, eq_negativeZero_iff]
  rcases order_cases x with ⟨hx, hlevel, horder⟩ | ⟨hx, hlevel, horder⟩ <;>
    rcases order_cases y with ⟨hy, hlevel', horder'⟩ | ⟨hy, hlevel', horder'⟩ <;>
    rw [hx, hy, hlevel, hlevel', horder, horder']
  · simp
  · simp only [true_and]
    omega
  · simp only [reduceCtorEq, false_and, not_false_eq_true, and_true]
    omega
  · simp

theorem order_injective : Function.Injective Double.order := by
  rintro ⟨a⟩ ⟨b⟩ h
  simp only [order] at h
  have hbits : a.toNat = b.toNat := by
    split at h <;> split at h <;> omega
  rw [UInt64.toNat_inj.mp hbits]

/-- **What is not a number stands at the end** that its sign points to. -/
theorem order_of_number?_eq_none (hx : x.number? = none) {b : EReal} (hy : y.number? = some b) :
    if x.isNegative then x.order < y.order else y.order < x.order := by
  have hbeyond := number?_eq_none_iff.mp hx
  have hbound := (eq_amount_of_number? hy).1
  rcases order_cases x with ⟨hx, -, horder⟩ | ⟨hx, -, horder⟩ <;>
    rcases order_cases y with ⟨hy, -, horder'⟩ | ⟨hy, -, horder'⟩ <;>
    rw [hx, horder, horder']
  · exact Int.ofNat_lt.mpr (hbound.trans_lt hbeyond)
  · show (-(y.magnitude : ℤ) - 1) < x.magnitude
    omega
  · show (-(x.magnitude : ℤ) - 1) < y.magnitude
    omega
  · show (-(x.magnitude : ℤ) - 1) < -(y.magnitude : ℤ) - 1
    omega

end Double

/-! ### Single precision -/

end Catalog
