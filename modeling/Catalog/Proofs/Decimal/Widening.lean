import Catalog.Decimal.Binary
import Mathlib.Data.Nat.Log
import Mathlib.Tactic.IntervalCases
import Mathlib.Tactic.Ring

/-!
# Widening single precision

A single-precision value is found again in the double that it widens to. Both formats are taken
apart into a sign, an exponent and a fraction; a finite value keeps its leading one, at another
place, and the places that are added are zeros, so that nothing is rounded on the way back.

## Main definitions

* `Binary.signed`: the bits of an amount with a sign
* `Single.IsNan`: what is not a number

## Main results

* `Binary.ofBits_signed`, `Binary.exists_signed`: bits are a sign, an exponent and a fraction
* `Single.narrow_widen`: widening loses nothing of a number
* `Single.isNan_narrow_widen`: what is not a number stays so
-/

namespace Catalog

theorem roundHalfEven_mul (n : Nat) {d : Nat} (hd : 0 < d) : roundHalfEven (n * d) d = n := by
  rw [roundHalfEven, Nat.mul_div_cancel _ hd, Nat.mul_mod_left, if_pos (.inl (by omega))]

namespace Binary

variable {fw ew ex f : Nat}

/-- The bits of an amount with a sign. -/
def signed (fw ew : Nat) (negative : Bool) (magnitude : Nat) : Nat :=
  if negative then 2 ^ (fw + ew) + magnitude else magnitude

/-- The value of an exponent field and a fraction field. -/
def ofFields (fw ew : Nat) (negative : Bool) (ex f : Nat) : Value :=
  let least : Int := 2 - 2 ^ (ew - 1) - fw
  if ex = 2 ^ ew - 1 then if f = 0 then .infinite negative else .nan negative
  else if ex = 0 then .finite negative f least false
  else .finite negative (2 ^ fw + f) (least + ex - 1) (f == 0 && ex != 1)

theorem magnitude_lt (hex : ex < 2 ^ ew) (hf : f < 2 ^ fw) : ex * 2 ^ fw + f < 2 ^ (fw + ew) := by
  calc ex * 2 ^ fw + f < ex * 2 ^ fw + 2 ^ fw := by omega
    _ = (ex + 1) * 2 ^ fw := by ring
    _ ≤ 2 ^ ew * 2 ^ fw := Nat.mul_le_mul_right _ hex
    _ = 2 ^ (fw + ew) := by rw [Nat.pow_add, Nat.mul_comm]

theorem signed_eq (negative : Bool) :
    signed fw ew negative (ex * 2 ^ fw + f) = (negative.toNat * 2 ^ ew + ex) * 2 ^ fw + f := by
  cases negative with
  | false => simp [signed]
  | true =>
    rw [signed, if_pos rfl, Bool.toNat_true, Nat.pow_add]
    ring

/-- Bits that were put together are taken apart again. -/
theorem ofBits_signed (hex : ex < 2 ^ ew) (hf : f < 2 ^ fw) (negative : Bool) :
    ofBits fw ew (signed fw ew negative (ex * 2 ^ fw + f)) = ofFields fw ew negative ex f := by
  have hfraction : signed fw ew negative (ex * 2 ^ fw + f) % 2 ^ fw = f := by
    rw [signed_eq, Nat.mul_add_mod', Nat.mod_eq_of_lt hf]
  have hdiv : signed fw ew negative (ex * 2 ^ fw + f) / 2 ^ fw = negative.toNat * 2 ^ ew + ex := by
    rw [signed_eq, Nat.mul_comm, Nat.mul_add_div (Nat.two_pow_pos fw), Nat.div_eq_of_lt hf,
      Nat.add_zero]
  have hexponent : signed fw ew negative (ex * 2 ^ fw + f) / 2 ^ fw % 2 ^ ew = ex := by
    rw [hdiv, Nat.mul_add_mod', Nat.mod_eq_of_lt hex]
  have hsign : (signed fw ew negative (ex * 2 ^ fw + f) / 2 ^ (fw + ew) % 2 == 1) = negative := by
    rw [Nat.pow_add, ← Nat.div_div_eq_div_mul, hdiv, Nat.mul_comm,
      Nat.mul_add_div (Nat.two_pow_pos ew), Nat.div_eq_of_lt hex]
    cases negative <;> rfl
  rw [ofBits, hfraction, hexponent, hsign]
  rfl

theorem signed_lt {magnitude : Nat} (h : magnitude < 2 ^ (fw + ew)) (negative : Bool) :
    signed fw ew negative magnitude < 2 ^ (fw + ew + 1) := by
  rw [Nat.pow_succ]
  cases negative with
  | false => rw [signed, if_neg (by decide)]; omega
  | true => rw [signed, if_pos rfl]; omega

/-- All bits of a format are a sign, an exponent and a fraction. -/
theorem exists_signed {bits : Nat} (h : bits < 2 ^ (fw + ew + 1)) :
    ∃ negative ex f, ex < 2 ^ ew ∧ f < 2 ^ fw ∧
      bits = signed fw ew negative (ex * 2 ^ fw + f) := by
  have hpos : 0 < 2 ^ fw := Nat.two_pow_pos fw
  have hsign : bits / 2 ^ fw / 2 ^ ew < 2 := by
    rw [Nat.div_div_eq_div_mul, ← Nat.pow_add]
    exact Nat.div_lt_of_lt_mul (by rw [← Nat.pow_succ]; exact h)
  refine ⟨bits / 2 ^ fw / 2 ^ ew == 1, bits / 2 ^ fw % 2 ^ ew, bits % 2 ^ fw,
    Nat.mod_lt _ (Nat.two_pow_pos ew), Nat.mod_lt _ hpos, ?_⟩
  have htoNat : (bits / 2 ^ fw / 2 ^ ew == 1).toNat = bits / 2 ^ fw / 2 ^ ew := by
    interval_cases bits / 2 ^ fw / 2 ^ ew <;> rfl
  rw [signed_eq, htoNat, Nat.div_add_mod', Nat.div_add_mod']

/-! ### Values of single precision in doubles -/

theorem log2_mul_two_pow {m : Nat} (hm : m ≠ 0) (k : Nat) : (m * 2 ^ k).log2 = m.log2 + k := by
  rw [Nat.log2_eq_iff (Nat.mul_ne_zero hm (Nat.two_pow_pos k).ne')]
  constructor
  · rw [Nat.pow_add]
    exact Nat.mul_le_mul_right _ (Nat.log2_self_le hm)
  · rw [Nat.add_right_comm, Nat.pow_add]
    exact Nat.mul_lt_mul_of_pos_right Nat.lt_log2_self (Nat.two_pow_pos k)

/-- The mantissa with its leading one moved to the front of 53 places. -/
def widened (m : Nat) : Nat :=
  m * 2 ^ (52 - m.log2)

theorem log2_widened {m : Nat} (hm : m ≠ 0) (hlt : m < 2 ^ 24) : (widened m).log2 = 52 := by
  have := (Nat.log2_lt hm).mpr hlt
  rw [widened, log2_mul_two_pow hm]
  omega

theorem widened_mem {m : Nat} (hm : m ≠ 0) (hlt : m < 2 ^ 24) :
    2 ^ 52 ≤ widened m ∧ widened m < 2 ^ 53 := by
  have hne : widened m ≠ 0 := Nat.mul_ne_zero hm (Nat.two_pow_pos _).ne'
  exact (Nat.log2_eq_iff hne).mp (log2_widened hm hlt)

theorem encode_zero (negative : Bool) (e : Int) :
    encode fw ew negative 0 e = signed fw ew negative 0 := by
  simp only [encode, if_true, signed]

/-- Writing a value of single precision as a double moves its leading one and rounds nothing. -/
theorem encode_double {m : Nat} {e : Int} (hm : m ≠ 0) (hlt : m < 2 ^ 24)
    (he : -149 ≤ e ∧ e ≤ 104) (negative : Bool) :
    encode 52 11 negative m e =
      signed 52 11 negative ((e + m.log2 + 1023).toNat * 2 ^ 52 + (widened m - 2 ^ 52)) := by
  have hlog := (Nat.log2_lt hm).mpr hlt
  have hmem := widened_mem hm hlt
  have hunit : max (-1074) (e + m.log2 - 52) = e + (m.log2 : Int) - 52 := by omega
  have hshift : (e - (e + (m.log2 : Int) - 52)).toNat = 52 - m.log2 := by omega
  have hle : e + (m.log2 : Int) - 52 ≤ e := by omega
  have hexponent : (e + (m.log2 : Int) - 52 - -1074).toNat + 1 = (e + m.log2 + 1023).toNat := by
    omega
  have hmagnitude : (e + (m.log2 : Int) - 52 - -1074).toNat * 2 ^ 52 + widened m =
      (e + m.log2 + 1023).toNat * 2 ^ 52 + (widened m - 2 ^ 52) := by
    rw [← hexponent]
    omega
  have hmin : (e + m.log2 + 1023).toNat * 2 ^ 52 + (widened m - 2 ^ 52) ≤
      (2 ^ 11 - 1) * 2 ^ 52 := by
    omega
  have hleast : (2 - 2 ^ (11 - 1) - 52 : Int) = -1074 := by norm_num
  simp only [encode, Nat.cast_ofNat, hleast, hunit, if_pos hle, if_neg hm, hshift]
  rw [show m * 2 ^ (52 - m.log2) = widened m from rfl, hmagnitude, Nat.min_eq_left hmin]
  rfl

/-- On the way back the places that were added are taken off. -/
theorem encode_single {m : Nat} {e : Int} (hm : m ≠ 0) (hlt : m < 2 ^ 24)
    (he : -149 ≤ e ∧ e ≤ 104) (hfront : e = -149 ∨ m.log2 = 23) (negative : Bool) :
    encode 23 8 negative (widened m) (e + m.log2 - 52) =
      signed 23 8 negative ((e + 149).toNat * 2 ^ 23 + m) := by
  have hlog := (Nat.log2_lt hm).mpr hlt
  have hne : widened m ≠ 0 := Nat.mul_ne_zero hm (Nat.two_pow_pos _).ne'
  have hunit : max (-149) (e + (m.log2 : Int) - 52 + 52 - 23) = e := by omega
  have hround : roundHalfEven (widened m) (2 ^ (e - (e + (m.log2 : Int) - 52)).toNat) = m := by
    have hshift : (e - (e + (m.log2 : Int) - 52)).toNat = 52 - m.log2 := by omega
    rw [hshift, widened, roundHalfEven_mul _ (Nat.two_pow_pos _)]
  have hlt' : ¬ e ≤ e + (m.log2 : Int) - 52 := by omega
  have hmin : (e - -149).toNat * 2 ^ 23 + m ≤ (2 ^ 8 - 1) * 2 ^ 23 := by omega
  have hleast : (2 - 2 ^ (8 - 1) - 23 : Int) = -149 := by norm_num
  simp only [encode, Nat.cast_ofNat, hleast, log2_widened hm hlt, hunit, if_neg hlt', if_neg hne,
    hround]
  rw [Nat.min_eq_left hmin, Int.sub_neg]
  rfl

end Binary

open Binary

/-- The value of a double whose bits were put together. -/
theorem Double.value_ofValue {v : Value} {negative : Bool} {ex f : Nat} (hex : ex < 2 ^ 11)
    (hf : f < 2 ^ 52) (h : v.bits 52 11 = signed 52 11 negative (ex * 2 ^ 52 + f)) :
    (Double.ofValue v).value = ofFields 52 11 negative ex f := by
  rw [Double.ofValue, Double.value, h,
    UInt64.toNat_ofNat_of_lt' (signed_lt (magnitude_lt hex hf) negative), ofBits_signed hex hf]

namespace Single

/-- Whether a single-precision value is not a number. -/
def IsNan (x : Single) : Prop :=
  ∃ negative, x.value = .nan negative

theorem exists_bits (x : Single) : ∃ negative ex f, ex < 2 ^ 8 ∧ f < 2 ^ 23 ∧
    x.bits.toNat = signed 23 8 negative (ex * 2 ^ 23 + f) :=
  exists_signed x.bits.toNat_lt

theorem value_eq {x : Single} {negative : Bool} {ex f : Nat} (hex : ex < 2 ^ 8) (hf : f < 2 ^ 23)
    (h : x.bits.toNat = signed 23 8 negative (ex * 2 ^ 23 + f)) :
    x.value = ofFields 23 8 negative ex f := by
  rw [value, h, ofBits_signed hex hf]

/-- A finite value that is not zero, with what its bits say of mantissa and exponent. -/
theorem exists_finite {ex f : Nat} (hex : ex < 2 ^ 8) (hf : f < 2 ^ 23) (htop : ex ≠ 2 ^ 8 - 1)
    (hzero : ¬ (ex = 0 ∧ f = 0)) (negative : Bool) :
    ∃ m e edge, ofFields 23 8 negative ex f = .finite negative m e edge ∧ m ≠ 0 ∧ m < 2 ^ 24 ∧
      (-149 ≤ e ∧ e ≤ 104) ∧ (e = -149 ∨ m.log2 = 23) ∧
      (e + 149).toNat * 2 ^ 23 + m = ex * 2 ^ 23 + f := by
  by_cases hsub : ex = 0
  · subst hsub
    exact ⟨f, -149, false, rfl, by omega, by omega, by omega, .inl rfl, by omega⟩
  · refine ⟨2 ^ 23 + f, -149 + ex - 1, f == 0 && ex != 1, ?_, by omega, by omega, by omega,
      .inr ?_, by omega⟩
    · simp only [ofFields, if_neg htop, if_neg hsub]
      rfl
    · rw [Nat.log2_eq_iff (by omega)]
      omega

/-- The double that a finite value becomes has the leading one of its mantissa in front. -/
theorem exists_value_widen_finite {m : Nat} {e : Int} (hm : m ≠ 0) (hlt : m < 2 ^ 24)
    (he : -149 ≤ e ∧ e ≤ 104) (negative edge : Bool) :
    ∃ edge', (Double.ofValue (.finite negative m e edge)).value =
      .finite negative (widened m) (e + m.log2 - 52) edge' := by
  have hlog := (Nat.log2_lt hm).mpr hlt
  have ⟨hge, hlt'⟩ := widened_mem hm hlt
  set ex := (e + m.log2 + 1023).toNat with hex
  have hmantissa : 2 ^ 52 + (widened m - 2 ^ 52) = widened m := by omega
  have hexponent : (2 - 2 ^ (11 - 1) - (52 : Nat) : Int) + ex - 1 = e + m.log2 - 52 := by
    norm_num
    omega
  have hvalue : (Double.ofValue (.finite negative m e edge)).value =
      ofFields 52 11 negative ex (widened m - 2 ^ 52) :=
    Double.value_ofValue (by omega) (by omega) (encode_double hm hlt he negative)
  refine ⟨widened m - 2 ^ 52 == 0 && ex != 1, hvalue.trans ?_⟩
  simp only [ofFields, if_neg (show ¬ ex = 2 ^ 11 - 1 by omega), if_neg (show ¬ ex = 0 by omega),
    hmantissa, hexponent]

theorem widen_narrow_finite {m : Nat} {e : Int} {edge : Bool} (hm : m ≠ 0) (hlt : m < 2 ^ 24)
    (he : -149 ≤ e ∧ e ≤ 104) (hfront : e = -149 ∨ m.log2 = 23) (negative : Bool) :
    (Double.ofValue (.finite negative m e edge)).value.bits 23 8 =
      signed 23 8 negative ((e + 149).toNat * 2 ^ 23 + m) := by
  obtain ⟨edge', hvalue⟩ := exists_value_widen_finite hm hlt he negative edge
  rw [hvalue, Value.bits, encode_single hm hlt he hfront]

theorem widen_narrow_zero (negative : Bool) (e : Int) (edge : Bool) :
    (Double.ofValue (.finite negative 0 e edge)).value.bits 23 8 = signed 23 8 negative 0 := by
  have hbits : (Value.finite negative 0 e edge).bits 52 11 =
      signed 52 11 negative (0 * 2 ^ 52 + 0) := encode_zero negative e
  rw [Double.value_ofValue (by decide) (by decide) hbits, ofFields, if_neg (by decide), if_pos rfl,
    Value.bits, encode_zero]

theorem widen_narrow_infinite (negative : Bool) :
    (Double.ofValue (.infinite negative)).value.bits 23 8 =
      signed 23 8 negative ((2 ^ 8 - 1) * 2 ^ 23) := by
  cases negative <;> rfl

/-- **Widening loses nothing of a number.** -/
theorem narrow_widen {x : Single} (h : ¬ x.IsNan) : x.widen.narrow = x := by
  obtain ⟨negative, ex, f, hex, hf, hbits⟩ := x.exists_bits
  have hvalue := value_eq hex hf hbits
  suffices hsame : x.widen.value.bits 23 8 = x.bits.toNat by
    rw [Double.narrow, ofValue, hsame, UInt32.ofNat_toNat]
  rw [widen, hbits]
  by_cases htop : ex = 2 ^ 8 - 1
  · by_cases hf0 : f = 0
    · subst htop hf0
      rw [hvalue]
      exact widen_narrow_infinite negative
    · refine absurd ⟨negative, ?_⟩ h
      rw [hvalue, ofFields, if_pos htop, if_neg hf0]
  by_cases hzero : ex = 0 ∧ f = 0
  · obtain ⟨rfl, rfl⟩ := hzero
    rw [hvalue]
    exact widen_narrow_zero negative _ _
  · obtain ⟨m, e, edge, hfinite, hm, hlt, he, hfront, heq⟩ :=
      exists_finite hex hf htop hzero negative
    rw [hvalue, hfinite, widen_narrow_finite hm hlt he hfront, heq]

/-- What is not a number is none after widening either. -/
theorem isNan_narrow_widen {x : Single} (h : x.IsNan) : x.widen.narrow.IsNan := by
  obtain ⟨negative, h⟩ := h
  refine ⟨negative, ?_⟩
  rw [Double.narrow, widen, h]
  cases negative <;> rfl

end Single

end Catalog
