import Catalog.Decimal.Binary
import Mathlib

/-!
# Two orders of doubles

Computed values are compared as numbers, where the zeros are equal and what is not a number has no
place. Stored values are compared by their bits, where each has a place of its own. The two orders
differ in just that: both are the order of the magnitudes with their signs, and the magnitude of a
double is its exponent with the mantissa behind it.

## Main definitions

* `rank`: where a value stands in the order of the bits
* `Binary64.number`: a value as a whole number, which settles how it compares

## Main results

* `Binary64.compare_unpacked`: unpacked doubles compare as their numbers
* `lt_iff_number`, `le_iff_number`: values compare as their numbers
* `rank_cases`: where a value stands, by its number
* `rank_le_of_not_lt`, `le_of_rank_le`: how the two orders are related
-/

namespace Catalog

open Float.Model
open Float.Model.UnpackedFloat (Sign unpackSign unpackExponent unpackMantissa)

/-- Where a value stands in the total order. -/
def rank (x : Float) : Int := (Double.ofFloat x).order

theorem rank_eq (x : Float) : rank x = if x.toBits.toNat < 2 ^ 63 then (x.toBits.toNat : Int)
    else 2 ^ 63 - 1 - x.toBits.toNat := rfl

namespace Binary64

/-! ### Unpacked doubles -/

/-- An unpacked double as a whole number. Both zeros are zero, and the infinities come next to the
greatest magnitudes. -/
def number? : UnpackedFloat → Option Int
  | .notANumber => none
  | .infinity s => some (s.apply (2047 * 2 ^ 52))
  | .zero _ => some 0
  | .finite s m e _ => some (s.apply ((e + 1074) * 2 ^ 52 + m))

/-- Within the bounds of a double, and with a leading bit unless the exponent is the least. -/
def IsCanonical : UnpackedFloat → Prop
  | .finite _ m e _ => m < 2 ^ 53 ∧ -1074 ≤ e ∧ e ≤ 971 ∧ (-1074 < e → 2 ^ 52 ≤ m)
  | _ => True

/-- Exponents first and mantissas then is the order of the magnitudes: a greater exponent outweighs
any mantissa, since the mantissa behind it has a leading bit. -/
theorem compare_then_compare {m n : Nat} {d e : Int} (hm : m < 2 ^ 53) (hn : n < 2 ^ 53)
    (hd : -1074 ≤ d) (he : -1074 ≤ e) (hm' : -1074 < d → 2 ^ 52 ≤ m)
    (hn' : -1074 < e → 2 ^ 52 ≤ n) :
    (compare d e).then (compare m n) =
      compare ((d + 1074) * 2 ^ 52 + m : Int) ((e + 1074) * 2 ^ 52 + n) := by
  rcases lt_trichotomy d e with hlt | rfl | hgt
  · have hmagnitude : (d + 1074) * 2 ^ 52 + m < (e + 1074) * 2 ^ 52 + (n : Int) := by omega
    rw [compare_lt_iff_lt.mpr hlt, compare_lt_iff_lt.mpr hmagnitude]
    rfl
  · rw [compare_eq_iff_eq.mpr rfl, Ordering.then]
    rcases lt_trichotomy m n with hlt | rfl | hgt
    · rw [compare_lt_iff_lt.mpr hlt, compare_lt_iff_lt.mpr (by omega)]
    · rw [compare_eq_iff_eq.mpr rfl, compare_eq_iff_eq.mpr rfl]
    · rw [compare_gt_iff_gt.mpr hgt, compare_gt_iff_gt.mpr (by omega)]
  · have hmagnitude : (e + 1074) * 2 ^ 52 + n < (d + 1074) * 2 ^ 52 + (m : Int) := by omega
    rw [compare_gt_iff_gt.mpr hgt, compare_gt_iff_gt.mpr hmagnitude]
    rfl

theorem compare_neg_neg (a b : Int) : compare (-a) (-b) = (compare a b).swap := by
  rcases lt_trichotomy a b with hlt | rfl | hgt
  · rw [compare_lt_iff_lt.mpr hlt, compare_gt_iff_gt.mpr (by omega), Ordering.swap]
  · rw [compare_eq_iff_eq.mpr rfl, compare_eq_iff_eq.mpr rfl, Ordering.swap]
  · rw [compare_gt_iff_gt.mpr hgt, compare_lt_iff_lt.mpr (by omega), Ordering.swap]

/-- **Unpacked doubles compare as their numbers**, and not at all if one of them has none. -/
theorem compare_unpacked {a b : UnpackedFloat} (ha : IsCanonical a) (hb : IsCanonical b) :
    a.compare b = (number? a).bind fun x => (number? b).map (compare x) := by
  have hlt {x y : Int} (h : x < y) : some Ordering.lt = some (compare x y) :=
    congrArg some (compare_lt_iff_lt.mpr h).symm
  have hgt {x y : Int} (h : y < x) : some Ordering.gt = some (compare x y) :=
    congrArg some (compare_gt_iff_gt.mpr h).symm
  cases a with
  | notANumber => rfl
  | infinity s =>
    cases b with
    | notANumber => cases s <;> rfl
    | infinity t => cases s <;> cases t <;> rfl
    | zero t => cases s <;> rfl
    | finite t n e hn =>
      obtain ⟨hn', he, he', -⟩ := hb
      cases s with
      | negative => cases t <;> exact hlt (by simp only [Sign.apply]; omega)
      | positive => cases t <;> exact hgt (by simp only [Sign.apply]; omega)
  | zero s =>
    cases b with
    | notANumber => rfl
    | infinity t => cases t <;> rfl
    | zero t => rfl
    | finite t n e hn =>
      obtain ⟨hn', he, -, -⟩ := hb
      cases t with
      | negative => exact hgt (by simp only [Sign.apply]; omega)
      | positive => exact hlt (by simp only [Sign.apply]; omega)
  | finite s m d hm =>
    obtain ⟨hm', hd, hd', hnormal⟩ := ha
    cases b with
    | notANumber => cases s <;> rfl
    | infinity t =>
      cases t with
      | negative => cases s <;> exact hgt (by simp only [Sign.apply]; omega)
      | positive => cases s <;> exact hlt (by simp only [Sign.apply]; omega)
    | zero t =>
      cases s with
      | negative => exact hlt (by simp only [Sign.apply]; omega)
      | positive => exact hgt (by simp only [Sign.apply]; omega)
    | finite t n e hn =>
      obtain ⟨hn', he, -, hnormal'⟩ := hb
      have hcompare := compare_then_compare hm' hn' hd he hnormal hnormal'
      cases s with
      | negative =>
        cases t with
        | negative =>
          refine congrArg some ?_
          rw [hcompare]
          exact (compare_neg_neg _ _).symm
        | positive => exact hlt (by simp only [Sign.apply]; omega)
      | positive =>
        cases t with
        | negative => exact hgt (by simp only [Sign.apply]; omega)
        | positive => exact congrArg some hcompare

/-! ### Unpacking bits -/

/-- The sign of a double with the given bits. -/
def sign (bits : Nat) : Sign :=
  if bits < 2 ^ 63 then .positive else .negative

theorem toNat_unpackMantissa (b : BitVec 64) :
    (@unpackMantissa Format.binary64 b).toNat = b.toNat % 2 ^ 52 := by
  simp [unpackMantissa]

theorem toNat_unpackExponent (b : BitVec 64) :
    (@unpackExponent Format.binary64 b).toNat = b.toNat / 2 ^ 52 % 2 ^ 11 := by
  simp [unpackExponent, Nat.shiftRight_eq_div_pow]

theorem ofBitVec_unpackSign (b : BitVec 64) :
    Sign.ofBitVec (@unpackSign Format.binary64 b) = sign b.toNat := by
  have hsign : @unpackSign Format.binary64 b = 0#1 ↔ b.toNat < 2 ^ 63 := by
    rw [← BitVec.toNat_inj]
    simp [unpackSign, Nat.shiftRight_eq_div_pow]
    omega
  rw [Sign.ofBitVec, sign]
  simp only [hsign]

/-- The mantissa with its leading bit. -/
theorem toNat_one_append_unpackMantissa (b : BitVec 64) :
    (1#1 ++ @unpackMantissa Format.binary64 b).toNat = 2 ^ 52 + b.toNat % 2 ^ 52 := by
  rw [BitVec.toNat_append, toNat_unpackMantissa, Nat.shiftLeft_eq]
  show 2 ^ 52 * 1 ||| b.toNat % 2 ^ 52 = 2 ^ 52 * 1 + b.toNat % 2 ^ 52
  exact (Nat.two_pow_add_eq_or_of_lt (Nat.mod_lt _ (Nat.two_pow_pos _)) 1).symm

/-- What is unpacked of the bits of a number is canonical, and its own number has the magnitude of
the bits. -/
theorem number?_unpack {b : BitVec 64}
    (h : (UnpackedFloat.unpack Format.binary64 b).isNaN = false) :
    IsCanonical (.unpack Format.binary64 b) ∧ number? (.unpack Format.binary64 b) =
      some ((sign b.toNat).apply (b.toNat % 2 ^ 63 : Nat)) := by
  obtain ⟨e, m, hexponent, hmantissa, hmagnitude⟩ : ∃ e m : Nat, b.toNat / 2 ^ 52 % 2 ^ 11 = e ∧
      b.toNat % 2 ^ 52 = m ∧ b.toNat % 2 ^ 63 = e * 2 ^ 52 + m :=
    ⟨_, _, rfl, rfl, by omega⟩
  have hm : m < 2 ^ 52 := by omega
  have he : e < 2 ^ 11 := by omega
  have hlast : (-1#11).toNat = 2047 := rfl
  have hfirst : (0#11).toNat = 0 := rfl
  have hnone : (0#52).toNat = 0 := rfl
  have hbias : Format.binary64.exponentBias = 1023 := rfl
  have hnormal := toNat_one_append_unpackMantissa b
  rw [hmantissa] at hnormal
  revert h
  simp only [UnpackedFloat.unpack, ← BitVec.toNat_inj, ofBitVec_unpackSign, toNat_unpackMantissa,
    toNat_unpackExponent, hlast, hfirst, hnone, hbias, hexponent, hmantissa, hmagnitude]
  split_ifs with hinfinite hzero hleast hzero
  · refine fun _ => ⟨trivial, congrArg (fun n => some ((sign b.toNat).apply n)) ?_⟩
    omega
  · exact nofun
  · refine fun _ => ⟨trivial, congrArg some ?_⟩
    rw [hleast, hzero]
    cases sign b.toNat <;> rfl
  · refine fun _ => ⟨⟨?_, ?_, ?_, ?_⟩, congrArg (fun n => some ((sign b.toNat).apply n)) ?_⟩
    all_goals omega
  · refine fun _ => ⟨⟨?_, ?_, ?_, ?_⟩, congrArg (fun n => some ((sign b.toNat).apply n)) ?_⟩
    all_goals omega

/-! ### Values -/

/-- A value as a whole number: the magnitude of its bits, with the sign. -/
def number (x : Float) : Int :=
  (sign x.toBits.toNat).apply (x.toBits.toNat % 2 ^ 63 : Nat)

theorem compare_of_not_isNaN {x y : Float} (hx : x.isNaN = false) (hy : y.isNaN = false) :
    x.toModel.compare y.toModel = some (compare (number x) (number y)) := by
  obtain ⟨hcx, hnx⟩ := number?_unpack (b := x.toBits.toBitVec) hx
  obtain ⟨hcy, hny⟩ := number?_unpack (b := y.toBits.toBitVec) hy
  refine (compare_unpacked hcx hcy).trans ?_
  rw [hnx, hny]
  rfl

theorem compare_of_isNaN {x y : Float} (h : x.isNaN = true ∨ y.isNaN = true) :
    x.toModel.compare y.toModel = none := by
  have hnot {u : UnpackedFloat} (hu : u.isNaN = true) : u = .notANumber := by
    cases u with
    | notANumber => rfl
    | _ => cases hu
  show x.toModel.unpack.compare y.toModel.unpack = none
  rcases h with h | h
  · rw [hnot h]
    rfl
  · rw [hnot (u := y.toModel.unpack) h]
    cases x.toModel.unpack with
    | notANumber => rfl
    | infinity s => cases s <;> rfl
    | zero s => rfl
    | finite s m e hm => cases s <;> rfl

end Binary64

open Binary64

/-- Numbers are compared as the whole numbers are; what is not a number is not compared. -/
theorem Binary64.compare_eq_some_iff {x y : Float} {o : Ordering} :
    x.toModel.compare y.toModel = some o ↔
      x.isNaN = false ∧ y.isNaN = false ∧ compare (number x) (number y) = o := by
  cases hx : x.isNaN with
  | true => rw [compare_of_isNaN (.inl hx)]; simp
  | false =>
    cases hy : y.isNaN with
    | true => rw [compare_of_isNaN (.inr hy)]; simp
    | false => rw [compare_of_not_isNaN hx hy]; simp

/-- Numbers are in order just if the whole numbers are; what is not a number is not. -/
theorem lt_iff_number {x y : Float} :
    x < y ↔ x.isNaN = false ∧ y.isNaN = false ∧ number x < number y := by
  have hlt : x < y ↔ (x.toModel.compare y.toModel == some .lt) = true := by
    show decide (x.toModel.lt y.toModel = true) = true ↔ _
    rw [decide_eq_true_iff]
    rfl
  rw [hlt, beq_iff_eq, compare_eq_some_iff, compare_lt_iff_lt]

theorem le_iff_number {x y : Float} :
    x ≤ y ↔ x.isNaN = false ∧ y.isNaN = false ∧ number x ≤ number y := by
  have hle : x ≤ y ↔ (x.toModel.compare y.toModel).any (·.isLE) = true := by
    show decide (x.toModel.le y.toModel = true) = true ↔ _
    rw [decide_eq_true_iff]
    rfl
  rw [hle, Option.any_eq_true]
  simp [compare_eq_some_iff, Ordering.isLE_iff_ne_gt, compare_le_iff_le, and_assoc]

/-- **Where a value stands in the total order**: at its number, or one below if it has the sign,
which leaves room for the two zeros. -/
theorem rank_cases (x : Float) :
    0 ≤ number x ∧ rank x = number x ∨ number x ≤ 0 ∧ rank x = number x - 1 := by
  have hbits : x.toBits.toNat < 2 ^ 64 := x.toBits.toNat_lt
  rw [rank_eq, number, sign]
  split_ifs with hsign
  · left
    simp only [Sign.apply]
    omega
  · right
    simp only [Sign.apply]
    omega

/-- No number is beyond infinity. -/
theorem Binary64.number_le {x : Float} (h : x.isNaN = false) : number x ≤ 2047 * 2 ^ 52 := by
  have hbound {u : UnpackedFloat} (hu : IsCanonical u) {n : Int} (hn : number? u = some n) :
      n ≤ 2047 * 2 ^ 52 := by
    cases u with
    | notANumber => cases hn
    | infinity s =>
      obtain rfl := Option.some.inj hn
      cases s <;> simp only [Sign.apply] <;> omega
    | zero s =>
      obtain rfl := Option.some.inj hn
      omega
    | finite s m e hm =>
      obtain ⟨hm', he, he', -⟩ := hu
      obtain rfl := Option.some.inj hn
      cases s <;> simp only [Sign.apply] <;> omega
  obtain ⟨hcanonical, hnumber⟩ := number?_unpack (b := x.toBits.toBitVec) h
  exact hbound hcanonical hnumber

/-- What is not a number stands beyond infinity. -/
theorem rank_of_isNaN {x : Float} (h : x.isNaN = true) : 2047 * 2 ^ 52 < rank x := by
  have hbits : x.toBits.toBitVec = UnpackedFloat.packedNaN Format.binary64 :=
    (UnpackedFloat.isNaN_unpack_iff_of_valid x.toModel.valid).mp h
  have hnat : x.toBits.toNat = 2047 * 2 ^ 52 + 2 ^ 51 := congrArg BitVec.toNat hbits
  rw [rank_eq, if_pos (by omega), hnat]
  omega

/-! ### How the orders are related -/

section

variable {x y : Float}

/-- What is not less than a number does not stand before it, unless both are zero. -/
theorem rank_le_of_not_lt (hx : x.isNaN = false) (hne : number x ≠ 0 ∨ number y ≠ 0)
    (h : ¬ y < x) : rank x ≤ rank y := by
  have hcases := rank_cases x
  cases hy : y.isNaN with
  | false =>
    rw [lt_iff_number, hx, hy] at h
    have hcases' := rank_cases y
    simp only [true_and] at h
    omega
  | true =>
    have hbound := number_le hx
    have hbeyond := rank_of_isNaN hy
    omega

/-- What does not stand behind a number is one. -/
theorem not_isNaN_of_rank_le (h : rank x ≤ rank y) (hy : y.isNaN = false) : x.isNaN = false := by
  cases hx : x.isNaN with
  | false => rfl
  | true =>
    have hbeyond := rank_of_isNaN hx
    have hbound := number_le hy
    have hcases := rank_cases y
    omega

/-- **What does not stand behind a number is not greater.** -/
theorem le_of_rank_le (h : rank x ≤ rank y) (hy : y.isNaN = false) : x ≤ y := by
  refine le_iff_number.mpr ⟨not_isNaN_of_rank_le h hy, hy, ?_⟩
  have hx := rank_cases x
  have hy := rank_cases y
  omega

end

end Catalog
