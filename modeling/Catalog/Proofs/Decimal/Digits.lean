import Catalog.Calendar
import Catalog.Proofs.Text.Blank

/-!
# Digits of numbers

A number written in decimal digits, perhaps with zeros in front, is found again by the readers of
digits. The digits of `Nat.toDigits 10` are the only ones that the library writes, so everything
here is a consequence of what core knows of them.

## Main results

* `digitsValue_toDigits`, `digitsValue_paddedDigits`: digits denote the number they were written for
* `length_paddedDigits`: a number that fits is written in exactly so many digits
* `takeNumber_append`: as many digits as a reader takes are read off the front of a text
-/

namespace Catalog

theorem isAsciiDigit_iff {c : Char} : isAsciiDigit c = true ↔ 48 ≤ c.toNat ∧ c.toNat ≤ 57 := by
  simp only [isAsciiDigit, Bool.and_eq_true, decide_eq_true_eq, Char.le_def, UInt32.le_iff_toNat_le]
  exact Iff.rfl

theorem isAsciiDigit_of_mem_toDigits {n : Nat} {c : Char} (h : c ∈ Nat.toDigits 10 n) :
    isAsciiDigit c = true := by
  have hd : c.isDigit = true := Nat.isDigit_of_mem_toDigits (by decide) (by decide) h
  simp only [Char.isDigit, Bool.and_eq_true, decide_eq_true_eq] at hd
  simp only [isAsciiDigit, Bool.and_eq_true, decide_eq_true_eq]
  exact hd

/-- No digit is blank, so nothing in front of a digit is skipped. -/
theorem isBlank_eq_false_of_isAsciiDigit {c : Char} (h : isAsciiDigit c = true) :
    isBlank c = false := by
  obtain ⟨hl, hg⟩ := isAsciiDigit_iff.mp h
  exact isBlank_of_visible (by omega) (by omega)

/-! ### The value of digits -/

theorem digitsValue_eq (s : List Char) : digitsValue s = Nat.ofDigitChars 10 s 0 := rfl

@[simp] theorem digitsValue_toDigits (n : Nat) : digitsValue (Nat.toDigits 10 n) = n := by
  rw [digitsValue_eq, Nat.ofDigitChars_ten_toDigits]

theorem digitsValue_append (a b : List Char) :
    digitsValue (a ++ b) = digitsValue a * 10 ^ b.length + digitsValue b := by
  rw [digitsValue_eq, digitsValue_eq, digitsValue_eq, Nat.ofDigitChars_append,
    Nat.ofDigitChars_eq_ofDigitChars_zero, Nat.mul_comm]

theorem digitsValue_replicate_zero (n : Nat) : digitsValue (List.replicate n '0') = 0 := by
  rw [digitsValue_eq, Nat.ofDigitChars_replicate_zero, Nat.mul_zero]

/-! ### Digits with zeros in front -/

theorem paddedDigits_eq (width n : Nat) :
    paddedDigits width n
      = List.replicate (width - (Nat.toDigits 10 n).length) '0' ++ Nat.toDigits 10 n := by
  simp only [paddedDigits, Nat.toString_eq_repr, Nat.toList_repr]

@[simp] theorem digitsValue_paddedDigits (width n : Nat) :
    digitsValue (paddedDigits width n) = n := by
  rw [paddedDigits_eq, digitsValue_append, digitsValue_replicate_zero, digitsValue_toDigits,
    Nat.zero_mul, Nat.zero_add]

theorem isAsciiDigit_of_mem_paddedDigits {width n : Nat} {c : Char}
    (h : c ∈ paddedDigits width n) : isAsciiDigit c = true := by
  rw [paddedDigits_eq] at h
  rcases List.mem_append.mp h with h | h
  · rw [List.eq_of_mem_replicate h]; rfl
  · exact isAsciiDigit_of_mem_toDigits h

theorem paddedDigits_ne_nil (width n : Nat) : paddedDigits width n ≠ [] := by
  rw [paddedDigits_eq]
  simp

/-- A number that fits is written in exactly `width` digits. -/
theorem length_paddedDigits {width n : Nat} (hw : 0 < width) (h : n < 10 ^ width) :
    (paddedDigits width n).length = width := by
  have hle : (Nat.toDigits 10 n).length ≤ width :=
    (Nat.length_toDigits_le_iff (by decide) hw).mpr h
  rw [paddedDigits_eq, List.length_append, List.length_replicate]
  omega

/-! ### Reading digits off a text -/

theorem trimStart_cons_of_isAsciiDigit {c : Char} (h : isAsciiDigit c = true) (s : List Char) :
    trimStart (c :: s) = c :: s := by
  rw [trimStart, List.dropWhile_cons_of_neg (by simp [isBlank_eq_false_of_isAsciiDigit h])]

theorem takeNumber_nil (width : Nat) : takeNumber width [] = none := by
  simp [takeNumber, trimStart]

/-- Exactly as many digits as the reader takes, whatever comes behind them. -/
theorem takeNumber_append {width : Nat} {ds : List Char} (hw : 0 < width)
    (hlen : ds.length = width) (hds : ∀ c ∈ ds, isAsciiDigit c = true) (rest : List Char) :
    takeNumber width (ds ++ rest) = some (digitsValue ds, rest) := by
  obtain ⟨c, ds', rfl⟩ : ∃ c ds', ds = c :: ds' := by
    cases ds with
    | nil => rw [← hlen] at hw; exact absurd hw (by simp)
    | cons c ds' => exact ⟨c, ds', rfl⟩
  have htrim : trimStart (c :: ds' ++ rest) = c :: ds' ++ rest :=
    trimStart_cons_of_isAsciiDigit (hds c (List.mem_cons_self ..)) _
  have htake : ((c :: ds' ++ rest).take width).takeWhile isAsciiDigit = c :: ds' := by
    rw [← hlen, List.take_left, List.takeWhile_eq_self_iff]
    exact hds
  simp only [takeNumber, htrim, htake, List.isEmpty_cons, List.drop_left]
  rfl

theorem takeNumber_paddedDigits {width n : Nat} (hw : 0 < width) (h : n < 10 ^ width)
    (rest : List Char) : takeNumber width (paddedDigits width n ++ rest) = some (n, rest) := by
  rw [takeNumber_append hw (length_paddedDigits hw h)
    (fun _ hc => isAsciiDigit_of_mem_paddedDigits hc), digitsValue_paddedDigits]

end Catalog
