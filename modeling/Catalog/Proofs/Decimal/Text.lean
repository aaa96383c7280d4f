import Catalog.Proofs.Decimal.Digits
import Catalog.Decimal.Shortest

/-!
# Texts of decimals

The positional text of a value is digits, perhaps with a point and more digits behind it, or one of
a few names. Every such text is one that the reader of decimals accepts, and of a positional text it
finds the very digits that were written.

## Main definitions

* `decimalChars`: digits around a point
* `IsFormatBody`: the texts that stand behind a sign

## Main results

* `toList_positional`: what the positional layout writes, and what it is worth
* `readUnsigned_decimalChars`: the digits that were written are found again
* `toList_format`, `exists_readDecimal_format`: the text of a value is a decimal
* `isFormatChar_of_mem_format`: which characters such a text is made of
-/

namespace Catalog

/-- Digits with a point behind them if more digits follow. -/
def decimalChars (whole fraction : List Char) : List Char :=
  whole ++ if fraction.isEmpty then [] else '.' :: fraction

@[simp] theorem decimalChars_nil (whole : List Char) : decimalChars whole [] = whole := by
  simp [decimalChars]

theorem decimalChars_of_ne_nil (whole : List Char) {fraction : List Char} (h : fraction ≠ []) :
    decimalChars whole fraction = whole ++ '.' :: fraction := by
  rw [decimalChars, List.isEmpty_eq_false_iff.mpr h]
  rfl

theorem toList_toString (n : Nat) : (toString n).toList = Nat.toDigits 10 n := by
  rw [Nat.toString_eq_repr, Nat.toList_repr]

/-! ### The positional layout -/

/-- What is written of some digits: all of them, with zeros behind or in front, and as many of them
behind the point as the exponent says. -/
theorem toList_positional (d : Digits) :
    ∃ whole fraction, (positional d).toList = decimalChars whole fraction ∧ whole ≠ [] ∧
      (∀ c ∈ whole ++ fraction, isAsciiDigit c = true) ∧
      digitsValue (whole ++ fraction) = d.digits * 10 ^ d.exponent.toNat ∧
      fraction.length = (-d.exponent).toNat := by
  by_cases he : 0 ≤ d.exponent
  · refine ⟨Nat.toDigits 10 d.digits ++ List.replicate d.exponent.toNat '0', [], ?_, ?_, ?_, ?_, ?_⟩
    · simp only [positional, if_pos he, String.toList_append, toList_toString,
        String.toList_ofList, decimalChars_nil]
    · exact List.append_ne_nil_of_left_ne_nil Nat.toDigits_ne_nil _
    · intro c hc
      rw [List.append_nil, List.mem_append] at hc
      rcases hc with hc | hc
      · exact isAsciiDigit_of_mem_toDigits hc
      · rw [List.eq_of_mem_replicate hc]
        rfl
    · rw [List.append_nil, digitsValue_append, digitsValue_toDigits, digitsValue_replicate_zero,
        List.length_replicate, Nat.add_zero]
    · rw [List.length_nil]
      omega
  · set places := (-d.exponent).toNat with hplaces
    have hpos : 0 < places := by omega
    set padded := paddedDigits (places + 1) d.digits with hpadded
    have hlen : places + 1 ≤ padded.length := by
      rw [hpadded, paddedDigits_eq, List.length_append, List.length_replicate]
      omega
    have hfraction : padded.drop (padded.length - places) ≠ [] := by
      intro h
      have := congrArg List.length h
      rw [List.length_drop, List.length_nil] at this
      omega
    refine ⟨padded.take (padded.length - places), padded.drop (padded.length - places), ?_, ?_, ?_,
      ?_, ?_⟩
    · rw [decimalChars_of_ne_nil _ hfraction, positional, if_neg he]
      simp only [String.toList_append, String.toList_ofList, ← hplaces, String.reduceToList,
        List.append_assoc, List.cons_append, List.nil_append, ← String.length_toList]
      rfl
    · intro h
      have := congrArg List.length h
      rw [List.length_take, List.length_nil] at this
      omega
    · intro c hc
      rw [List.take_append_drop] at hc
      exact isAsciiDigit_of_mem_paddedDigits hc
    · rw [List.take_append_drop, hpadded, digitsValue_paddedDigits,
        Int.toNat_of_nonpos (by omega), Nat.pow_zero, Nat.mul_one]
    · rw [List.length_drop]
      omega

/-! ### Reading digits around a point -/

theorem toLower_of_isAsciiDigit {c : Char} (h : isAsciiDigit c = true) : c.toLower = c := by
  have hc : ¬ (c.val ≥ 'A'.val ∧ c.val ≤ 'Z'.val) := by
    intro ⟨hl, _⟩
    have : 65 ≤ c.toNat := UInt32.le_iff_toNat_le.mp hl
    have := (isAsciiDigit_iff.mp h).2
    omega
  exact dif_neg hc

theorem not_isAsciiDigit_point : ¬ isAsciiDigit '.' = true := by decide

/-- No text that begins with a digit is the name of a special value. -/
theorem map_toLower_ne {c : Char} (h : isAsciiDigit c = true) (s : List Char) {name : List Char}
    (hname : name.head?.any isAsciiDigit = false) :
    (c :: s).map Char.toLower ≠ name := by
  rintro rfl
  rw [List.map_cons, List.head?_cons, Option.any_some, toLower_of_isAsciiDigit h, h] at hname
  exact absurd hname (by decide)

/-- The digits that were written around a point are found again. -/
theorem readUnsigned_decimalChars {whole fraction : List Char} (hw : whole ≠ [])
    (hds : ∀ c ∈ whole ++ fraction, isAsciiDigit c = true) :
    readUnsigned (decimalChars whole fraction) =
      some (.finite (digitsValue (whole ++ fraction)) (-(fraction.length : Int))) := by
  obtain ⟨c, w, rfl⟩ := List.exists_cons_of_ne_nil hw
  have hc : isAsciiDigit c = true := hds c (by simp)
  have hwhole : ∀ d ∈ c :: w, isAsciiDigit d = true := fun d hd =>
    hds d (List.mem_append_left _ hd)
  have hfraction : ∀ d ∈ fraction, isAsciiDigit d = true := fun d hd =>
    hds d (List.mem_append_right _ hd)
  have hname {name : List Char} (h : name.head?.any isAsciiDigit = false) :
      (decimalChars (c :: w) fraction).map Char.toLower ≠ name := by
    rw [decimalChars, List.cons_append]
    exact map_toLower_ne hc _ h
  have htake : (decimalChars (c :: w) fraction).takeWhile isAsciiDigit = c :: w := by
    rw [decimalChars, List.takeWhile_append_of_pos hwhole]
    cases fraction with
    | nil => simp
    | cons d f => simp [List.takeWhile_cons_of_neg not_isAsciiDigit_point]
  rw [readUnsigned, if_neg, if_neg (hname (by decide))]
  · simp only [htake]
    cases fraction with
    | nil => simp [readExponent]
    | cons d f =>
      rw [decimalChars_of_ne_nil _ (by simp), List.drop_left]
      simp [List.takeWhile_eq_self_iff.mpr hfraction, List.dropWhile_eq_nil_iff.mpr hfraction,
        readExponent]
  · rw [Bool.or_eq_true, decide_eq_true_eq, decide_eq_true_eq]
    rintro (h | h)
    · exact hname (by decide) h
    · exact hname (by decide) h

/-! ### Texts of values -/

/-- The characters that texts of values are made of: digits, points, minus signs and letters. -/
def isFormatChar (c : Char) : Bool :=
  isAsciiDigit c || c == '.' || c == '-' || c.isAlpha

theorem isFormatChar_of_isAsciiDigit {c : Char} (h : isAsciiDigit c = true) :
    isFormatChar c = true := by
  rw [isFormatChar, h]
  rfl

/-- What stands behind the sign in the text of a value: digits around a point or a name. -/
inductive IsFormatBody : List Char → Prop
  | nan : IsFormatBody ['N', 'a', 'N']
  | infinite : IsFormatBody ['i', 'n', 'f']
  | digits {whole fraction : List Char} (hw : whole ≠ [])
      (hds : ∀ c ∈ whole ++ fraction, isAsciiDigit c = true) :
      IsFormatBody (decimalChars whole fraction)

namespace IsFormatBody

variable {body : List Char}

theorem exists_readUnsigned (h : IsFormatBody body) : ∃ d, readUnsigned body = some d := by
  cases h with
  | nan => exact ⟨.nan, by decide⟩
  | infinite => exact ⟨.infinite, by decide⟩
  | digits hw hds => exact ⟨_, readUnsigned_decimalChars hw hds⟩

theorem isFormatChar_of_mem (h : IsFormatBody body) {c : Char} (hc : c ∈ body) :
    isFormatChar c = true := by
  cases h with
  | nan => exact (by decide : ∀ c ∈ ['N', 'a', 'N'], isFormatChar c = true) c hc
  | infinite => exact (by decide : ∀ c ∈ ['i', 'n', 'f'], isFormatChar c = true) c hc
  | @digits whole fraction hw hds =>
    rw [decimalChars, List.mem_append] at hc
    rcases hc with hc | hc
    · exact isFormatChar_of_isAsciiDigit (hds c (List.mem_append_left _ hc))
    · cases fraction with
      | nil => simp at hc
      | cons d f =>
        rcases List.mem_cons.mp hc with rfl | hc
        · rfl
        · exact isFormatChar_of_isAsciiDigit (hds c (List.mem_append_right _ hc))

/-- No sign stands in front. -/
theorem exists_cons (h : IsFormatBody body) :
    ∃ c r, body = c :: r ∧ c ≠ '-' ∧ c ≠ '+' := by
  cases h with
  | nan => exact ⟨_, _, rfl, by decide, by decide⟩
  | infinite => exact ⟨_, _, rfl, by decide, by decide⟩
  | @digits whole fraction hw hds =>
    obtain ⟨c, w, rfl⟩ := List.exists_cons_of_ne_nil hw
    have hc : isAsciiDigit c = true := hds c (by simp)
    refine ⟨c, _, by rw [decimalChars, List.cons_append], ?_, ?_⟩
    · rintro rfl
      exact absurd hc (by decide)
    · rintro rfl
      exact absurd hc (by decide)

end IsFormatBody

/-- The text of a value is a sign, if it has one, in front of a name or of digits. -/
theorem toList_format (v : Binary.Value) :
    ∃ (negative : Bool) (body : List Char), IsFormatBody body ∧
      v.format.toList = (if negative then ['-'] else []) ++ body := by
  have hsign (negative : Bool) (s : String) :
      (withSign negative s).toList = (if negative then ['-'] else []) ++ s.toList := by
    cases negative with
    | false => rfl
    | true => rw [withSign, if_pos rfl, String.toList_append]; rfl
  cases v with
  | nan negative => exact ⟨false, _, .nan, hsign false "NaN"⟩
  | infinite negative => exact ⟨negative, _, .infinite, hsign negative "inf"⟩
  | finite negative m e edge =>
    cases m with
    | zero =>
      exact ⟨negative, _, .digits (by simp : ['0'] ≠ []) (by decide : ∀ c ∈ ['0'] ++ [], _),
        hsign negative "0"⟩
    | succ m =>
      obtain ⟨whole, fraction, hchars, hw, hds, -⟩ :=
        toList_positional (shortestDigits (m + 1) e edge)
      refine ⟨negative, _, .digits hw hds, ?_⟩
      rw [Binary.Value.format, hsign, hchars]
      exact Nat.succ_ne_zero m

/-- **Every text of a value is a decimal.** -/
theorem exists_readDecimal_format (v : Binary.Value) : ∃ p, readDecimal v.format = .ok p := by
  obtain ⟨negative, body, hbody, heq⟩ := toList_format v
  obtain ⟨d, hd⟩ := hbody.exists_readUnsigned
  obtain ⟨c, r, rfl, hminus, hplus⟩ := hbody.exists_cons
  have hne : v.format.isEmpty = false := by
    rw [Bool.eq_false_iff, Ne, String.isEmpty_iff, ← String.toList_eq_nil_iff, heq]
    simp
  rw [readDecimal, hne, heq]
  refine ⟨(negative, d), ?_⟩
  cases negative with
  | false => simp [hd, hminus, hplus]
  | true => simp [hd]

/-- A double is read from its own text. -/
theorem exists_readDouble_format (x : Double) : ∃ y, readDouble x.format = .ok y := by
  obtain ⟨p, hp⟩ := exists_readDecimal_format x.value
  rw [readDouble, Double.format, hp]
  exact ⟨_, rfl⟩

theorem isFormatChar_of_mem_format {v : Binary.Value} {c : Char} (h : c ∈ v.format.toList) :
    isFormatChar c = true := by
  obtain ⟨negative, body, hbody, heq⟩ := toList_format v
  rw [heq, List.mem_append] at h
  rcases h with h | h
  · cases negative with
    | false => simp at h
    | true =>
      rw [List.mem_singleton.mp h]
      rfl
  · exact hbody.isFormatChar_of_mem h

end Catalog
