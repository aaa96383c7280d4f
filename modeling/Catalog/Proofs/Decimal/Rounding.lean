import Catalog.Proofs.Decimal.Number
import Catalog.Proofs.Decimal.TotalOrder

/-!
# Integers as doubles

An integer that is no double becomes one of the two doubles beside it. Which of the two it is does
not matter to a comparison with a double: none stands between the integer and what it becomes. So
comparisons are right as long as the double that is compared is not the one that it becomes.

## Main definitions

* `Binary64.IsRounding`: a magnitude that no double separates from an amount
* `Double.ofInt64`: the double that an integer becomes

## Main results

* `Binary64.isRounding_round`: rounding a whole number
* `Double.number?_ofInt64`: what the double of an integer is
-/

namespace Catalog

open Binary
open Float.Model Float.Model.UnpackedFloat

namespace Binary64

/-! ### Rounding a mantissa -/

/-- What rounding knows of a mantissa whose last bits have been cut off: the rest, and whether
there was anything in them. -/
theorem shiftRight_mantissa (m k : ℕ) :
    let em := (⟨m, false, false⟩ : ExtendedMantissa) >>> k
    em.mantissa = m / 2 ^ k ∧
      (m % 2 ^ k = 0 → em.roundBit = false ∧ em.stickyBit = false) := by
  induction k with
  | zero => exact ⟨by rw [Nat.pow_zero, Nat.div_one]; rfl, fun _ => ⟨rfl, rfl⟩⟩
  | succ k ih =>
    obtain ⟨hmantissa, hexact⟩ := ih
    intro em
    have hem : em = ((⟨m, false, false⟩ : ExtendedMantissa) >>> k).shiftRightOne := rfl
    rw [hem, ExtendedMantissa.shiftRightOne, hmantissa]
    refine ⟨by rw [Nat.div_div_eq_div_mul, Nat.pow_succ], fun hmod => ?_⟩
    obtain ⟨c, rfl⟩ := Nat.dvd_of_mod_eq_zero hmod
    have hsplit : 2 ^ (k + 1) * c = 2 ^ k * (2 * c) := by rw [Nat.pow_succ, Nat.mul_assoc]
    have hquotient : 2 ^ (k + 1) * c / 2 ^ k = 2 * c := by
      rw [hsplit, Nat.mul_div_cancel_left _ (Nat.two_pow_pos k)]
    obtain ⟨hround, hsticky⟩ := hexact (by rw [hsplit, Nat.mul_mod_right])
    rw [hquotient, hround, hsticky, Nat.mul_mod_right]
    exact ⟨rfl, rfl⟩

/-- A mantissa is rounded to the rest of it or to the next one, and not at all if nothing has been
cut off. -/
theorem roundedMantissa_cases (m k : ℕ) :
    let r := ((⟨m, false, false⟩ : ExtendedMantissa) >>> k).roundedMantissa
    r = m / 2 ^ k ∨ r = m / 2 ^ k + 1 ∧ m % 2 ^ k ≠ 0 := by
  obtain ⟨hmantissa, hexact⟩ := shiftRight_mantissa m k
  generalize (⟨m, false, false⟩ : ExtendedMantissa) >>> k = em at hmantissa hexact
  obtain ⟨q, roundBit, stickyBit⟩ := em
  obtain rfl : q = m / 2 ^ k := hmantissa
  have hnonzero (h : roundBit = true ∨ stickyBit = true) : m % 2 ^ k ≠ 0 := fun hmod => by
    obtain ⟨rfl, rfl⟩ := hexact hmod
    simp at h
  cases roundBit with
  | false => cases stickyBit <;> exact .inl rfl
  | true =>
    cases stickyBit with
    | false =>
      -- a tie goes to the even one
      rcases Nat.mod_two_eq_zero_or_one (m / 2 ^ k) with heven | hodd
      · refine .inl ?_
        show m / 2 ^ k + m / 2 ^ k % 2 = m / 2 ^ k
        rw [heven, Nat.add_zero]
      · refine .inr ⟨?_, hnonzero (.inl rfl)⟩
        show m / 2 ^ k + m / 2 ^ k % 2 = m / 2 ^ k + 1
        rw [hodd]
    | true => exact .inr ⟨rfl, hnonzero (.inl rfl)⟩

/-! ### Rounding a whole number -/

/-- A mantissa that is long enough is cut to 53 bits. -/
theorem shiftToTargetExponent_exact {m : ℕ} {e : ℤ} (hm : 2 ^ 52 ≤ m) (he : -1074 ≤ e) :
    shiftToTargetExponent Format.binary64 m e .exact =
      ((⟨m, false, false⟩ : ExtendedMantissa) >>> (m.log2 - 52), e + (m.log2 - 52 : ℕ)) := by
  have hlog : 52 ≤ m.log2 := (Nat.le_log2 (by omega)).mpr hm
  have htarget : (Format.binary64.targetExponent (totalExponent m e) - e).toNat =
      m.log2 - 52 := by
    have hleast : Format.binary64.minExponent = -1074 := by decide
    rw [Format.targetExponent, hleast, totalExponent]
    simp only [Format.mantissaBits]
    omega
  rw [shiftToTargetExponent, shiftToExponent, htarget]
  rfl

/-- The whole number with the leading bit of its mantissa in front. -/
def lengthened (n : ℕ) : ℕ := n * 2 ^ (52 - n.log2)

theorem log2_lengthened {n : ℕ} (hn : n ≠ 0) :
    (lengthened n).log2 = max n.log2 52 := by
  rw [lengthened, log2_mul_two_pow hn]
  omega

theorem le_lengthened {n : ℕ} (hn : n ≠ 0) : 2 ^ 52 ≤ lengthened n := by
  have hne : lengthened n ≠ 0 := Nat.mul_ne_zero hn (Nat.two_pow_pos _).ne'
  rw [← Nat.le_log2 hne, log2_lengthened hn]
  exact le_max_right _ _

/-- The first 53 bits of a whole number. -/
def leading (n : ℕ) : ℕ := lengthened n / 2 ^ (n.log2 - 52)

theorem leading_mem {n : ℕ} (hn : n ≠ 0) : 2 ^ 52 ≤ leading n ∧ leading n < 2 ^ 53 := by
  have hne : lengthened n ≠ 0 := Nat.mul_ne_zero hn (Nat.two_pow_pos _).ne'
  have hlog := log2_lengthened hn
  constructor
  · rw [leading, Nat.le_div_iff_mul_le (Nat.two_pow_pos _), ← Nat.pow_add, ← Nat.le_log2 hne]
    omega
  · rw [leading, Nat.div_lt_iff_lt_mul (Nat.two_pow_pos _), ← Nat.pow_add, ← Nat.log2_lt hne]
    omega

/-- A rounded whole number as an exponent with a mantissa behind it. The mantissa may take one bit
more than there is room for, which is carried over to the exponent. -/
theorem exists_round {n : ℕ} (hn : n ≠ 0) (hlt : n < 2 ^ 64) (s : Sign) :
    ∃ r m e hm, (r = leading n ∨ r = leading n + 1 ∧ lengthened n % 2 ^ (n.log2 - 52) ≠ 0) ∧
      UnpackedFloat.round Format.binary64 s n 0 = .finite s m e hm ∧
      2 ^ 52 ≤ m ∧ m < 2 ^ 53 ∧ -1074 ≤ e ∧ e ≤ 971 ∧
      (e + 1074).toNat * 2 ^ 52 + m = (n.log2 + 1022) * 2 ^ 52 + r := by
  have hlog : n.log2 < 64 := (Nat.log2_lt hn).mpr hlt
  have hlog' := log2_lengthened hn
  obtain ⟨hge, hlt'⟩ := leading_mem hn
  have hleast : Format.binary64.minExponent = -1074 := by decide
  have hshift : (0 - Format.binary64.targetExponent (totalExponent n 0)).toNat = 52 - n.log2 := by
    rw [Format.targetExponent, hleast, totalExponent]
    simp only [Format.mantissaBits]
    omega
  set r := ((⟨lengthened n, false, false⟩ : ExtendedMantissa) >>>
    ((lengthened n).log2 - 52)).roundedMantissa with hr
  have hbits : (lengthened n).log2 - 52 = n.log2 - 52 := by omega
  have hcases : r = leading n ∨ r = leading n + 1 ∧ lengthened n % 2 ^ (n.log2 - 52) ≠ 0 := by
    have := roundedMantissa_cases (lengthened n) (n.log2 - 52)
    rw [hr, hbits]
    exact this
  have hrge : 2 ^ 52 ≤ r := by omega
  have hrle : r ≤ 2 ^ 53 := by omega
  set e : ℤ := 0 - (52 - n.log2 : ℕ) + ((lengthened n).log2 - 52 : ℕ) with he
  have hround : UnpackedFloat.round Format.binary64 s n 0 =
      let m := ((⟨r, false, false⟩ : ExtendedMantissa) >>> (r.log2 - 52)).mantissa
      if h : m = 0 then .zero s
      else .finite s m (e + (r.log2 - 52 : ℕ)) (Nat.pos_of_ne_zero h) := by
    rw [UnpackedFloat.round, decreaseExponent, hshift, Nat.shiftLeft_eq]
    simp only [roundWithAccuracy]
    rw [show n * 2 ^ (52 - n.log2) = lengthened n from rfl,
      shiftToTargetExponent_exact (le_lengthened hn) (by omega)]
    simp only [← hr, ← he, shiftToTargetExponent_exact (e := e) hrge (by omega)]
  rw [(shiftRight_mantissa r _).1] at hround
  rcases hrle.lt_or_eq with hsmall | hcarry
  · have hrlog : r.log2 = 52 := (Nat.log2_eq_iff (by omega)).mpr ⟨hrge, hsmall⟩
    rw [hrlog, Nat.sub_self, Nat.pow_zero, Nat.div_one] at hround
    refine ⟨r, r, e + (0 : ℕ), by omega, hcases, ?_, hrge, hsmall, by omega, by omega, by omega⟩
    simpa only [dif_neg (show ¬ r = 0 by omega)] using hround
  · have hrlog : r.log2 = 53 := by rw [hcarry]; exact Nat.log2_two_pow
    have hhalf : r / 2 ^ (53 - 52) = 2 ^ 52 := by omega
    rw [hrlog, hhalf] at hround
    refine ⟨r, 2 ^ 52, e + (53 - 52 : ℕ), by omega, hcases, ?_, le_rfl, by omega, by omega,
      by omega, by omega⟩
    simpa only [dif_neg (show ¬ (2 : ℕ) ^ 52 = 0 by omega)] using hround

/-- A magnitude is what an amount in units is rounded to: no double stands between them. -/
def IsRounding (amount magnitude : ℕ) : Prop :=
  ∀ k, (amount ≤ units k → magnitude ≤ k) ∧ (units k ≤ amount → k ≤ magnitude)

/-- What the bits of a whole number are worth that a mantissa has no room for. -/
def unread (n : ℕ) : ℕ := n.log2 + 1022 - (n.log2 - 52)

theorem mul_unitsOfOne (n : ℕ) : n * unitsOfOne = lengthened n * 2 ^ unread n := by
  have hplaces : 52 - n.log2 + unread n = places := by rw [places, unread]; omega
  rw [lengthened, Nat.mul_assoc, ← Nat.pow_add, hplaces, unitsOfOne]

theorem units_leading_add {n i : ℕ} (hn : n ≠ 0) (hi : i ≤ 1) :
    units ((n.log2 + 1022) * 2 ^ 52 + (leading n + i)) =
      (leading n + i) * 2 ^ (n.log2 - 52) * 2 ^ unread n := by
  obtain ⟨hge, hlt⟩ := leading_mem hn
  have hexponent : n.log2 - 52 + unread n = n.log2 + 1022 := by rw [unread]; omega
  rw [units_mul_add (by omega) (by omega), Nat.mul_assoc, ← Nat.pow_add, hexponent]

/-- **A whole number is rounded** to the first 53 of its bits, or to the next ones. -/
theorem isRounding_round {n r : ℕ} (hn : n ≠ 0)
    (hr : r = leading n ∨ r = leading n + 1 ∧ lengthened n % 2 ^ (n.log2 - 52) ≠ 0) :
    IsRounding (n * unitsOfOne) ((n.log2 + 1022) * 2 ^ 52 + r) := by
  have hbase := units_leading_add (i := 0) hn (Nat.zero_le 1)
  have hnext := units_leading_add (i := 1) hn le_rfl
  simp only [Nat.add_zero] at hbase
  have hdiv : lengthened n =
      leading n * 2 ^ (n.log2 - 52) + lengthened n % 2 ^ (n.log2 - 52) := by
    rw [leading, Nat.div_add_mod']
  have hmod : lengthened n % 2 ^ (n.log2 - 52) < 2 ^ (n.log2 - 52) :=
    Nat.mod_lt _ (Nat.two_pow_pos _)
  have hlow : units ((n.log2 + 1022) * 2 ^ 52 + leading n) ≤ n * unitsOfOne := by
    rw [hbase, mul_unitsOfOne]
    exact Nat.mul_le_mul_right _ (by omega)
  have hhigh : n * unitsOfOne < units ((n.log2 + 1022) * 2 ^ 52 + (leading n + 1)) := by
    rw [hnext, mul_unitsOfOne, Nat.succ_mul]
    exact Nat.mul_lt_mul_of_pos_right (by omega) (Nat.two_pow_pos _)
  intro i
  constructor
  · intro hi
    rcases hr with rfl | ⟨rfl, hne⟩
    · exact units_strictMono.le_iff_le.mp (hlow.trans hi)
    · have hbelow : units ((n.log2 + 1022) * 2 ^ 52 + leading n) < n * unitsOfOne := by
        rw [hbase, mul_unitsOfOne]
        exact Nat.mul_lt_mul_of_pos_right (by omega) (Nat.two_pow_pos _)
      exact units_strictMono.lt_iff_lt.mp (hbelow.trans_le hi)
  · intro hi
    have hle := units_strictMono.lt_iff_lt.mp (hi.trans_lt hhigh)
    omega

/-! ### Packing -/

/-- The bits of the sign. -/
def signBits : Sign → ℕ
  | .positive => 0
  | .negative => 2 ^ 63

theorem toNat_packComponents (s : Sign) (e : BitVec 11) (m : BitVec 52) :
    (packComponents Format.binary64 s e m).toNat =
      signBits s + (e.toNat * 2 ^ 52 + m.toNat) := by
  have hsign : s.toBitVec.toNat * 2 ^ 11 * 2 ^ 52 = signBits s := by cases s <;> rfl
  rw [packComponents, BitVec.toNat_append, BitVec.toNat_append,
    ← Nat.shiftLeft_add_eq_or_of_lt e.isLt, ← Nat.shiftLeft_add_eq_or_of_lt m.isLt,
    Nat.shiftLeft_eq, Nat.shiftLeft_eq, Nat.add_mul, hsign, Nat.add_assoc]

section Normal

variable {s : Sign} {m : ℕ} {e : ℤ} {hpos : 0 < m} (hm : 2 ^ 52 ≤ m) (hm' : m < 2 ^ 53)
  (he : -1074 ≤ e) (he' : e ≤ 971)

include hm hm' he he'

theorem pack_normal : UnpackedFloat.pack Format.binary64 (.finite s m e hpos) =
    packComponents Format.binary64 s (BitVec.ofNat _ ((e + 1074).toNat + 1)) (BitVec.ofNat _ m) := by
  have hlog : m.log2 = 52 := (Nat.log2_eq_iff hpos.ne').mpr ⟨hm, hm'⟩
  have hexponent : (e + Format.binary64.exponentBias +
      Format.binary64.mantissaBitsWithoutImplicit).toNat = (e + 1074).toNat + 1 := by
    show (e + (1023 : ℕ) + (52 : ℕ)).toNat = _
    omega
  have hfinite : ¬ 2 ^ Format.binary64.exponentBits ≤ (e + 1074).toNat + 1 + 1 := by
    show ¬ 2 ^ 11 ≤ _
    omega
  rw [UnpackedFloat.pack, hexponent, hlog, if_neg hfinite]
  exact if_pos rfl

/-- The bits of a normal value. -/
theorem toNat_pack : (UnpackedFloat.pack Format.binary64 (.finite s m e hpos)).toNat =
    signBits s + ((e + 1074).toNat * 2 ^ 52 + m) := by
  rw [pack_normal hm hm' he he', toNat_packComponents, BitVec.toNat_ofNat, BitVec.toNat_ofNat]
  have hexponent : ((e + 1074).toNat + 1) % 2 ^ 11 = (e + 1074).toNat + 1 :=
    Nat.mod_eq_of_lt (by omega)
  have hmantissa : m % 2 ^ 52 + 2 ^ 52 = m := by omega
  rw [hexponent]
  omega

/-- Packing a normal value loses nothing. -/
theorem unpack_pack : UnpackedFloat.unpack Format.binary64
    (UnpackedFloat.pack Format.binary64 (.finite s m e hpos)) = .finite s m e hpos := by
  have hexponent : (BitVec.ofNat 11 ((e + 1074).toNat + 1)).toNat = (e + 1074).toNat + 1 := by
    rw [BitVec.toNat_ofNat]
    exact Nat.mod_eq_of_lt (by omega)
  have hlast : ¬ BitVec.ofNat 11 ((e + 1074).toNat + 1) = -1#11 := by
    rw [← BitVec.toNat_inj, hexponent]
    show ¬ _ = 2047
    omega
  have hfirst : ¬ BitVec.ofNat 11 ((e + 1074).toNat + 1) = 0#11 := by
    rw [← BitVec.toNat_inj, hexponent]
    exact Nat.succ_ne_zero _
  have hmantissa : (1#1 ++ BitVec.ofNat 52 m).toNat = m := by
    rw [BitVec.toNat_append, ← Nat.shiftLeft_add_eq_or_of_lt (BitVec.isLt _), BitVec.toNat_ofNat]
    show 2 ^ 52 + m % 2 ^ 52 = m
    omega
  have hsign : Sign.ofBitVec (unpackSign (packComponents Format.binary64 s
      (BitVec.ofNat 11 ((e + 1074).toNat + 1)) (BitVec.ofNat 52 m))) = s := by
    rw [ofBitVec_unpackSign, toNat_packComponents, sign, hexponent, BitVec.toNat_ofNat]
    cases s with
    | positive => exact if_pos (by rw [signBits]; omega)
    | negative => exact if_neg (by rw [signBits]; omega)
  rw [pack_normal hm hm' he he', UnpackedFloat.unpack]
  simp only [unpackExponent_packComponents, unpackMantissa_packComponents]
  rw [if_neg hlast, if_neg hfirst]
  simp only [hsign, hexponent, hmantissa]
  congr 1
  show ((e + 1074).toNat + 1 : ℕ) - ((1023 : ℕ) + (52 : ℕ) : ℤ) = e
  omega

end Normal

/-! ### Unsigned integers -/

/-- The double of an unsigned integer is normal, and its bits are rounded. -/
theorem exists_toFloat {n : UInt64} (hn : n ≠ 0) : ∃ m e hm,
    n.toFloat = .ofModel (.pack (.finite .positive m e hm)) ∧
      2 ^ 52 ≤ m ∧ m < 2 ^ 53 ∧ -1074 ≤ e ∧ e ≤ 971 ∧
      IsRounding (n.toNat * unitsOfOne) ((e + 1074).toNat * 2 ^ 52 + m) := by
  have hnat : n.toNat ≠ 0 := fun h => hn (UInt64.toNat_inj.mp h)
  obtain ⟨r, m, e, hm, hr, hround, hge, hlt, he, he', hbits⟩ :=
    exists_round hnat n.toNat_lt .positive
  have hpositive : compare (n.toNat : ℤ) 0 = .gt :=
    compare_gt_iff_gt.mpr (Int.natCast_pos.mpr (Nat.pos_of_ne_zero hnat))
  refine ⟨m, e, hm, ?_, hge, hlt, he, he', by rw [hbits]; exact isRounding_round hnat hr⟩
  have hnormalize : UnpackedFloat.ofUInt64 Format.binary64 n = .finite .positive m e hm := by
    rw [UnpackedFloat.ofUInt64, UnpackedFloat.ofNat, UnpackedFloat.ofInt,
      UnpackedFloat.normalize, hpositive]
    exact hround
  rw [UInt64.toFloat, Float.Model.ofUInt64, hnormalize]

theorem toNat_toBits_ofModel (u : UnpackedFloat) :
    (Float.ofModel (.pack u)).toBits.toNat = (UnpackedFloat.pack Format.binary64 u).toNat := rfl

theorem neg_ofModel {m : ℕ} {e : ℤ} {hm : 0 < m} (hge : 2 ^ 52 ≤ m) (hlt : m < 2 ^ 53)
    (he : -1074 ≤ e) (he' : e ≤ 971) : -Float.ofModel (.pack (.finite .positive m e hm)) =
      .ofModel (.pack (.finite .negative m e hm)) := by
  show Float.ofModel (.pack (UnpackedFloat.neg (UnpackedFloat.unpack Format.binary64
    (UnpackedFloat.pack Format.binary64 (.finite .positive m e hm))))) = _
  rw [unpack_pack hge hlt he he']
  rfl

end Binary64

open Binary64

namespace Double

/-! ### Signed integers -/

/-- The double that an integer becomes. -/
def ofInt64 (n : Int64) : Double := .ofFloat (floatOfInt64 n)

theorem isRounding_zero : IsRounding 0 0 := fun k =>
  ⟨fun _ => Nat.zero_le k, fun h => units_strictMono.le_iff_le.mp (h.trans (Nat.zero_le _))⟩

/-- The sign and the magnitude of a double that was packed. -/
theorem isNegative_ofModel (s : Sign) {m : ℕ} {e : ℤ} (hm : 0 < m) (hge : 2 ^ 52 ≤ m)
    (hlt : m < 2 ^ 53) (he : -1074 ≤ e) (he' : e ≤ 971) :
    let x := ofFloat (.ofModel (.pack (.finite s m e hm)))
    x.isNegative = (s == .negative) ∧ x.magnitude = (e + 1074).toNat * 2 ^ 52 + m := by
  intro x
  have hbits : x.bits.toNat = signBits s + ((e + 1074).toNat * 2 ^ 52 + m) :=
    (toNat_toBits_ofModel _).trans (toNat_pack hge hlt he he')
  rw [isNegative, magnitude, hbits]
  cases s with
  | positive =>
    rw [signBits]
    exact ⟨decide_eq_false (by omega), by omega⟩
  | negative =>
    rw [signBits]
    exact ⟨decide_eq_true (by omega), by omega⟩

theorem toInt_eq (n : Int64) : n.toInt =
    if n.toUInt64.toNat < 2 ^ 63 then (n.toUInt64.toNat : ℤ) else n.toUInt64.toNat - 2 ^ 64 := by
  rw [Int64.toInt, BitVec.toInt_eq_toNat_cond, Int64.toNat_toBitVec]
  have hhalf : 2 * n.toUInt64.toNat < 2 ^ 64 ↔ n.toUInt64.toNat < 2 ^ 63 := by omega
  simp only [hhalf]
  rfl

theorem toNat_toUInt64_of_pos {n : Int64} (h : 0 ≤ n.toInt) :
    n.toUInt64.toNat = n.toInt.natAbs := by
  have hint := toInt_eq n
  have hword := n.toUInt64.toNat_lt
  split at hint <;> omega

theorem toNat_toUInt64_neg {n : Int64} (h : n.toInt < 0) :
    (-n).toUInt64.toNat = n.toInt.natAbs := by
  have hint := toInt_eq n
  have hword := n.toUInt64.toNat_lt
  have hsize : UInt64.size = 2 ^ 64 := rfl
  rw [Int64.toUInt64_neg, UInt64.toNat_neg, hsize]
  split at hint <;> omega

/-- **The double that an integer becomes** has the sign of the integer, and a magnitude to which the
amount of the integer is rounded. -/
theorem isRounding_ofInt64 (n : Int64) :
    (ofInt64 n).isNegative = decide (n.toInt < 0) ∧
      IsRounding (n.toInt.natAbs * unitsOfOne) (ofInt64 n).magnitude := by
  have hnegative : n < 0 ↔ n.toInt < 0 := Int64.lt_iff_toInt_lt
  have hne {w : UInt64} (hw : w.toNat = n.toInt.natAbs) (hn : n.toInt ≠ 0) : w ≠ 0 := fun h => by
    rw [h, eq_comm, UInt64.toNat_zero, Int.natAbs_eq_zero] at hw
    exact hn hw
  rcases lt_trichotomy n.toInt 0 with hlt | hzero | hgt
  · have habs := toNat_toUInt64_neg hlt
    obtain ⟨m, e, hm, hfloat, hge, hlt', he, he', hrounding⟩ := exists_toFloat (hne habs hlt.ne)
    have hn : ofInt64 n = ofFloat (.ofModel (.pack (.finite .negative m e hm))) := by
      rw [ofInt64, floatOfInt64, if_pos (hnegative.mpr hlt), hfloat, neg_ofModel hge hlt' he he']
    obtain ⟨hsign, hmagnitude⟩ := isNegative_ofModel .negative hm hge hlt' he he'
    rw [hn, hsign, hmagnitude, ← habs]
    exact ⟨(decide_eq_true hlt).symm, hrounding⟩
  · have hn : n = 0 := Int64.toInt_inj.mp hzero
    have hdouble : ofInt64 0 = zero := by decide +kernel
    rw [hn, hdouble, isNegative_zero, magnitude_zero]
    exact ⟨rfl, by rw [Int64.toInt_zero, Int.natAbs_zero, Nat.zero_mul]; exact isRounding_zero⟩
  · have habs := toNat_toUInt64_of_pos hgt.le
    obtain ⟨m, e, hm, hfloat, hge, hlt', he, he', hrounding⟩ := exists_toFloat (hne habs hgt.ne')
    have hn : ofInt64 n = ofFloat (.ofModel (.pack (.finite .positive m e hm))) := by
      rw [ofInt64, floatOfInt64, if_neg (by rw [hnegative]; exact hgt.not_gt), hfloat]
    obtain ⟨hsign, hmagnitude⟩ := isNegative_ofModel .positive hm hge hlt' he he'
    rw [hn, hsign, hmagnitude, ← habs]
    exact ⟨(decide_eq_false hgt.not_gt).symm, hrounding⟩

theorem magnitude_ofInt64_eq_zero_iff (n : Int64) : (ofInt64 n).magnitude = 0 ↔ n.toInt = 0 := by
  obtain ⟨-, hrounding⟩ := isRounding_ofInt64 n
  constructor
  · intro hmagnitude
    rw [hmagnitude] at hrounding
    by_contra hne
    -- the least positive double is not greater than an integer that is not zero
    have hpos : 0 < n.toInt.natAbs * unitsOfOne :=
      Nat.mul_pos (Int.natAbs_pos.mpr hne) unitsOfOne_pos
    have hleast : units 1 ≤ n.toInt.natAbs * unitsOfOne := by
      rw [units, if_pos (by decide)]
      exact Nat.succ_le_of_lt hpos
    exact Nat.not_succ_le_zero 0 ((hrounding 1).2 hleast)
  · intro hzero
    rw [hzero, Int.natAbs_zero, Nat.zero_mul] at hrounding
    exact Nat.le_zero.mp ((hrounding 0).1 (Nat.zero_le _))

theorem ofInt64_eq_zero_iff (n : Int64) : ofInt64 n = zero ↔ n.toInt = 0 := by
  rw [eq_zero_iff, magnitude_ofInt64_eq_zero_iff, (isRounding_ofInt64 n).1]
  exact and_iff_right_of_imp fun hzero => decide_eq_false hzero.not_lt

theorem ofInt64_ne_negativeZero (n : Int64) : ofInt64 n ≠ negativeZero := by
  rw [Ne, eq_negativeZero_iff, magnitude_ofInt64_eq_zero_iff, (isRounding_ofInt64 n).1,
    decide_eq_true_iff]
  omega

/-- A whole number compares with the number of a magnitude as with the magnitude in units. -/
theorem natCast_le_amount_iff {n k : ℕ} (hn : n * unitsOfOne ≤ units top) (hk : k ≤ top) :
    ((n : ℝ) : EReal) ≤ amount k ↔ n * unitsOfOne ≤ units k := by
  rcases hk.lt_or_eq with hlt | rfl
  · rw [amount_of_lt hlt, EReal.coe_le_coe_iff, le_div_iff₀ cast_unitsOfOne_pos, ← Nat.cast_mul,
      Nat.cast_le]
  · rw [amount_top]
    exact iff_of_true le_top hn

theorem amount_le_natCast_iff {n k : ℕ} (hn : n * unitsOfOne < units top) (hk : k ≤ top) :
    amount k ≤ ((n : ℝ) : EReal) ↔ units k ≤ n * unitsOfOne := by
  rcases hk.lt_or_eq with hlt | rfl
  · rw [amount_of_lt hlt, EReal.coe_le_coe_iff, div_le_iff₀ cast_unitsOfOne_pos, ← Nat.cast_mul,
      Nat.cast_le]
  · rw [amount_top, top_le_iff]
    exact iff_of_false (EReal.coe_ne_top _) hn.not_ge

/-- An integer by its sign and its amount. -/
theorem intCast_eq (n : ℤ) : ((n : ℝ) : EReal) =
    if n < 0 then -((n.natAbs : ℝ) : EReal) else ((n.natAbs : ℝ) : EReal) := by
  have hcast : ((n.natAbs : ℝ) : EReal) = (((n.natAbs : ℤ) : ℝ) : EReal) := by
    rw [Int.cast_natCast]
  split
  · next h => rw [hcast, Int.ofNat_natAbs_of_nonpos h.le, ← EReal.coe_neg, ← Int.cast_neg, neg_neg]
  · next h => rw [hcast, Int.natAbs_of_nonneg (not_lt.mp h)]

/-- Integers lie far below infinity. -/
theorem natAbs_mul_lt_units_top (n : Int64) : n.toInt.natAbs * unitsOfOne < units top := by
  have hbound : n.toInt.natAbs < 2 ^ 64 := by
    have := n.toInt_lt
    have := n.le_toInt
    omega
  obtain ⟨e, he⟩ : ∃ e, places + 12 ≤ e ∧ top = e * 2 ^ 52 + 2 ^ 52 := ⟨2046, by decide, by decide⟩
  have hpower : 2 ^ 64 * unitsOfOne ≤ 2 ^ 52 * 2 ^ e := by
    rw [unitsOfOne, ← Nat.pow_add, ← Nat.pow_add]
    exact Nat.pow_le_pow_right Nat.two_pos (by omega)
  rw [he.2, units_mul_add le_rfl (by omega)]
  exact (Nat.mul_lt_mul_of_pos_right hbound unitsOfOne_pos).trans_le hpower

theorem magnitude_ofInt64_le (n : Int64) : (ofInt64 n).magnitude ≤ top :=
  ((isRounding_ofInt64 n).2 top).1 (natAbs_mul_lt_units_top n).le

/-- **No double stands between an integer and the double that it becomes.** -/
theorem number?_ofInt64 (n : Int64) : ∃ a, (ofInt64 n).number? = some a ∧
    ∀ (y : Double) (b : EReal), y.number? = some b →
      (((n.toInt : ℝ) : EReal) ≤ b → a ≤ b) ∧ (b ≤ ((n.toInt : ℝ) : EReal) → b ≤ a) := by
  obtain ⟨hsign, hrounding⟩ := isRounding_ofInt64 n
  have hbound := natAbs_mul_lt_units_top n
  have hle := magnitude_ofInt64_le n
  have hnumber := number?_eq (ofInt64 n)
  rw [if_neg hle.not_gt] at hnumber
  refine ⟨_, hnumber, fun y b hy => ?_⟩
  obtain ⟨hym, rfl⟩ := eq_amount_of_number? hy
  obtain ⟨hround, hround'⟩ := hrounding y.magnitude
  rw [← natCast_le_amount_iff hbound.le hym, ← amount_le_amount_iff hle hym] at hround
  rw [← amount_le_natCast_iff hbound hym, ← amount_le_amount_iff hym hle] at hround'
  have hnonneg := amount_nonneg y.magnitude
  have hnonneg' := amount_nonneg (ofInt64 n).magnitude
  rw [hsign]
  have habs := intCast_eq n.toInt
  by_cases hlt : n.toInt < 0
  · rw [if_pos hlt] at habs
    rw [decide_eq_true hlt, if_pos rfl, habs]
    cases y.isNegative with
    | true =>
      simp only [if_true, EReal.neg_le_neg_iff]
      exact ⟨hround', hround⟩
    | false =>
      have hbelow : -((n.toInt.natAbs : ℝ) : EReal) < amount y.magnitude := by
        refine lt_of_lt_of_le ?_ hnonneg
        rw [← habs]
        exact_mod_cast hlt
      exact ⟨fun _ => (EReal.neg_le_zero.mpr hnonneg').trans hnonneg,
        fun h => absurd h hbelow.not_ge⟩
  · rw [if_neg hlt] at habs
    rw [decide_eq_false hlt, if_neg Bool.false_ne_true, habs]
    cases y.isNegative with
    | false => exact ⟨hround, hround'⟩
    | true =>
      refine ⟨fun h => ?_, fun _ => (EReal.neg_le_zero.mpr hnonneg).trans hnonneg'⟩
      -- an integer that is not above what is not positive is zero
      have hzero : n.toInt.natAbs = 0 := by
        have hle' : ((n.toInt.natAbs : ℝ) : EReal) ≤ 0 := h.trans (EReal.neg_le_zero.mpr hnonneg)
        exact_mod_cast le_antisymm (by exact_mod_cast hle') (Nat.zero_le _)
      have hmagnitude : (ofInt64 n).magnitude = 0 :=
        (magnitude_ofInt64_eq_zero_iff n).mpr (Int.natAbs_eq_zero.mp hzero)
      rw [hmagnitude, amount_zero]
      rw [hzero, Nat.cast_zero, EReal.coe_zero] at h
      exact h

/-- **An integer as the lower end of a range.** It is told from a double as it should be, except
from zero with the sign if it is zero, and from the double that it becomes if that one is less. -/
theorem order_ofInt64_le_iff (n : Int64) {x : Double} {b : EReal} (hx : x.number? = some b) :
    (ofInt64 n).order ≤ x.order ↔
      (((n.toInt : ℝ) : EReal) ≤ b ∧ ¬ (n.toInt = 0 ∧ x = negativeZero)) ∨
        (b < ((n.toInt : ℝ) : EReal) ∧ x = ofInt64 n) := by
  obtain ⟨a, ha, hrounds⟩ := number?_ofInt64 n
  obtain ⟨hup, hdown⟩ := hrounds x b hx
  have horder := order_le_order_iff (x := ofInt64 n) (y := x)
  rw [ofInt64_eq_zero_iff, ← le_iff_level_le ha hx] at horder
  constructor
  · intro h
    obtain ⟨hle, hzeros⟩ := horder.mp h
    rcases le_or_gt ((n.toInt : ℝ) : EReal) b with hn | hn
    · exact .inl ⟨hn, hzeros⟩
    · have hback : x.order ≤ (ofInt64 n).order :=
        order_le_order_iff.mpr ⟨(le_iff_level_le hx ha).mp (hdown hn.le),
          fun hz => ofInt64_ne_negativeZero n hz.2⟩
      exact .inr ⟨hn, order_injective (le_antisymm hback h)⟩
  · rintro (⟨hn, hzeros⟩ | ⟨-, rfl⟩)
    · exact horder.mpr ⟨hup hn, hzeros⟩
    · exact le_rfl

/-- **An integer as the upper end of a range.** -/
theorem order_le_ofInt64_iff (n : Int64) {x : Double} {b : EReal} (hx : x.number? = some b) :
    x.order ≤ (ofInt64 n).order ↔
      b ≤ ((n.toInt : ℝ) : EReal) ∨ (((n.toInt : ℝ) : EReal) < b ∧ x = ofInt64 n) := by
  obtain ⟨a, ha, hrounds⟩ := number?_ofInt64 n
  obtain ⟨hup, hdown⟩ := hrounds x b hx
  have horder {z w : Double} {c d : EReal} (hz : z.number? = some c) (hw : w.number? = some d)
      (h : c ≤ d) (hne : ¬ (z = zero ∧ w = negativeZero)) : z.order ≤ w.order :=
    order_le_order_iff.mpr ⟨(le_iff_level_le hz hw).mp h, hne⟩
  constructor
  · intro h
    rcases le_or_gt b ((n.toInt : ℝ) : EReal) with hn | hn
    · exact .inl hn
    · refine .inr ⟨hn, order_injective (le_antisymm h (horder ha hx (hup hn.le) ?_))⟩
      -- zero with the sign is not above an integer
      rintro ⟨hzero, rfl⟩
      obtain rfl := Option.some.inj (number?_negativeZero.symm.trans hx)
      rw [(ofInt64_eq_zero_iff n).mp hzero, Int.cast_zero, EReal.coe_zero] at hn
      exact lt_irrefl _ hn
  · rintro (hn | ⟨-, rfl⟩)
    · exact horder hx ha (hdown hn) fun hz => ofInt64_ne_negativeZero n hz.2
    · exact le_rfl

end Double

end Catalog
