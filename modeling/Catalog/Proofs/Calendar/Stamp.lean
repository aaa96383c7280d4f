import Catalog.Proofs.Decimal.Digits
import Mathlib.Data.String.Basic

/-!
# Stored dates

The text of a moment is read back as that moment without its nanoseconds exactly if its year has
four digits. Behind the sign of any other year the reader takes every digit for one of the year, so
that no month is left.

## Main results

* `Moment.ofStamp?_stamp`: a year of four digits is read back
* `Moment.ofStamp?_stamp_eq_none`: any other year is not
* `takeYear_yearDigits`: every year is read back where nothing stands behind it
-/

namespace Catalog

namespace Moment

/-- Whether the year is one that is written without a sign. -/
def HasPlainYear (m : Moment) : Prop :=
  0 ≤ m.year ∧ m.year ≤ 9999

instance (m : Moment) : Decidable m.HasPlainYear :=
  inferInstanceAs (Decidable (_ ∧ _))

/-- The parts of a moment make it up. -/
theorem ofParts?_parts (m : Moment) :
    ofParts? m.year m.month m.day m.hour m.minute m.second m.nano = some m := by
  rw [ofParts?, dif_pos ⟨m.year_mem, m.month_mem, m.day_mem, m.time_lt, m.nano_lt⟩]

theorem month_lt (m : Moment) : m.month < 10 ^ 2 := by
  have := m.month_mem
  omega

theorem daysInMonth_le (year : Int) (month : Nat) : daysInMonth year month ≤ 31 := by
  unfold daysInMonth
  split <;> split <;> omega

theorem day_lt (m : Moment) : m.day < 10 ^ 2 := by
  have := m.day_mem
  have := daysInMonth_le m.year m.month
  omega

theorem writtenSecond_lt (m : Moment) : m.writtenSecond < 10 ^ 2 := by
  have hnano : m.nano / nanosPerSecond < 2 := Nat.div_lt_of_lt_mul m.nano_lt
  have hsecond := m.time_lt.2.2
  rw [writtenSecond]
  omega

theorem writtenSecond_eq {m : Moment} (h : m.nano < nanosPerSecond) :
    m.writtenSecond = m.second := by
  rw [writtenSecond, Nat.div_eq_of_lt h, Nat.add_zero]

end Moment

/-! ### Reading the parts of a stamp -/

/-- Two digits are read off, whatever comes behind them. -/
theorem takePart_paddedDigits {n : Nat} (h : n < 10 ^ 2) (rest : List Char) :
    takePart .nothing (paddedDigits 2 n ++ rest) = some (n, rest) := by
  rw [takePart, Separator.take?, Option.bind_some, takeNumber_paddedDigits (by decide) h]

theorem takePart_nil : takePart .nothing [] = none := by
  rw [takePart, Separator.take?, Option.bind_some, takeNumber_nil]

theorem yearDigits_of_plain {year : Int} (h : 0 ≤ year ∧ year ≤ 9999) :
    yearDigits year = paddedDigits 4 year.toNat := by
  rw [yearDigits, if_pos h]

theorem yearDigits_of_signed {year : Int} (h : ¬ (0 ≤ year ∧ year ≤ 9999)) :
    yearDigits year = (if year < 0 then '-' else '+') :: paddedDigits 4 year.natAbs := by
  rw [yearDigits, if_neg h]

/-- A digit is no sign: a text that goes on with one has a year of at most four digits. -/
theorem takeYear_of_trimStart {s r : List Char} {c : Char} (hc : isAsciiDigit c = true)
    (h : trimStart s = c :: r) :
    takeYear s = (takeNumber 4 (c :: r)).map fun (n, t) => ((n : Int), t) := by
  rw [takeYear, h]
  split
  · next heq =>
    rw [(List.cons.inj heq).1] at hc
    exact absurd hc (by decide)
  · next heq =>
    rw [(List.cons.inj heq).1] at hc
    exact absurd hc (by decide)
  · rfl

/-- A year that is read off without a sign. -/
theorem takeYear_paddedDigits {n : Nat} (h : n < 10 ^ 4) (rest : List Char) :
    takeYear (paddedDigits 4 n ++ rest) = some ((n : Int), rest) := by
  obtain ⟨c, r, hcr⟩ := List.exists_cons_of_ne_nil (paddedDigits_ne_nil 4 n)
  have hc : isAsciiDigit c = true :=
    isAsciiDigit_of_mem_paddedDigits (by rw [hcr]; exact List.mem_cons_self ..)
  have htake := takeNumber_paddedDigits (by decide : 0 < 4) h rest
  rw [hcr, List.cons_append] at htake
  rw [hcr, List.cons_append, takeYear_of_trimStart hc (trimStart_cons_of_isAsciiDigit hc _), htake]
  rfl

/-- Behind a sign every digit is taken for one of the year. -/
theorem takeYear_sign {sign : Char} (hs : sign = '-' ∨ sign = '+') {ds : List Char}
    (hds : ∀ c ∈ ds, isAsciiDigit c = true) {y : Int} {rest : List Char}
    (h : takeYear (sign :: ds) = some (y, rest)) : rest = [] := by
  have htrim : trimStart (sign :: ds) = sign :: ds := by
    rw [trimStart, List.dropWhile_cons_of_neg]
    rcases hs with rfl | rfl <;> decide
  have htake : ds.takeWhile isAsciiDigit = ds := List.takeWhile_eq_self_iff.mpr hds
  rw [takeYear, htrim] at h
  rcases hs with rfl | rfl <;>
    · simp only [htake, List.drop_length] at h
      split at h
      · simp at h
      · simp only [Option.map_some, Option.some.injEq, Prod.mk.injEq] at h
        exact h.2.symm

/-- A year is read back from its text, whether it has a sign or not. -/
theorem takeYear_yearDigits (year : Int) : takeYear (yearDigits year) = some (year, []) := by
  by_cases hplain : 0 ≤ year ∧ year ≤ 9999
  · have htake := takeYear_paddedDigits (n := year.toNat) (by omega) []
    rw [List.append_nil, Int.toNat_of_nonneg hplain.1] at htake
    rw [yearDigits_of_plain hplain, htake]
  · have hdigits : (paddedDigits 4 year.natAbs).takeWhile isAsciiDigit = paddedDigits 4 year.natAbs :=
      List.takeWhile_eq_self_iff.mpr fun _ => isAsciiDigit_of_mem_paddedDigits
    have hsome : (paddedDigits 4 year.natAbs).isEmpty = false :=
      List.isEmpty_eq_false_iff.mpr (paddedDigits_ne_nil 4 year.natAbs)
    have htrim (sign : Char) (hsign : isBlank sign = false) (r : List Char) :
        trimStart (sign :: r) = sign :: r := by
      rw [trimStart, List.dropWhile_cons_of_neg (by simp [hsign])]
    rw [yearDigits_of_signed hplain]
    split
    · have hyear : -(year.natAbs : Int) = year := by omega
      rw [takeYear, htrim _ (by decide)]
      simp only [hdigits, hsome, Bool.false_eq_true, if_false, List.drop_length, Option.map_some,
        digitsValue_paddedDigits, hyear]
    · have hyear : (year.natAbs : Int) = year := by omega
      rw [takeYear, htrim _ (by decide)]
      simp only [hdigits, hsome, Bool.false_eq_true, if_false, List.drop_length, Option.map_some,
        digitsValue_paddedDigits, hyear]

theorem yearDigits_injective : Function.Injective yearDigits := by
  intro y y' h
  have htake := congrArg takeYear h
  rw [takeYear_yearDigits, takeYear_yearDigits] at htake
  exact congrArg Prod.fst (Option.some.inj htake)

/-! ### Reading a stamp -/

namespace Moment

theorem toList_stamp (m : Moment) :
    m.stamp.toList = yearDigits m.year ++ (paddedDigits 2 m.month ++ (paddedDigits 2 m.day ++
      (paddedDigits 2 m.hour ++ (paddedDigits 2 m.minute ++
        (paddedDigits 2 m.writtenSecond ++ []))))) := by
  simp only [stamp, String.toList_ofList, List.append_assoc, List.append_nil]

/-- What is written of a moment behind its year. -/
def behindYear (m : Moment) : List Char :=
  paddedDigits 2 m.month ++ (paddedDigits 2 m.day ++ (paddedDigits 2 m.hour ++
    (paddedDigits 2 m.minute ++ (paddedDigits 2 m.writtenSecond ++ []))))

theorem toList_stamp_eq_append (m : Moment) : m.stamp.toList = yearDigits m.year ++ m.behindYear :=
  m.toList_stamp

theorem length_behindYear (m : Moment) : m.behindYear.length = 10 := by
  have hpart {n : Nat} (hn : n < 10 ^ 2) : (paddedDigits 2 n).length = 2 :=
    length_paddedDigits (by decide) hn
  obtain ⟨hhour, hminute, -⟩ := m.time_lt
  simp only [behindYear, List.length_append, hpart m.month_lt, hpart m.day_lt,
    hpart (show m.hour < 10 ^ 2 by omega), hpart (show m.minute < 10 ^ 2 by omega),
    hpart m.writtenSecond_lt, List.length_nil]

/-- **A stored date of a year of four digits is read back.** What is lost is the part below a
second. -/
theorem ofStamp?_stamp {m : Moment} (hy : m.HasPlainYear) (hn : m.nano < nanosPerSecond) :
    ofStamp? m.stamp = some m.truncate := by
  have hyear : m.year.toNat < 10 ^ 4 := by
    have := hy.1
    have := hy.2
    omega
  have hcast : ((m.year.toNat : Nat) : Int) = m.year := Int.toNat_of_nonneg hy.1
  have ⟨hhour, hminute, hsecond⟩ := m.time_lt
  have hne : m.second ≠ 60 := by omega
  rw [ofStamp?, read?, toList_stamp, yearDigits_of_plain hy, writtenSecond_eq hn]
  simp only [Layout.stamp, takeYear_paddedDigits hyear, takePart_paddedDigits m.month_lt,
    takePart_paddedDigits m.day_lt, takePart_paddedDigits (n := m.hour) (by omega),
    takePart_paddedDigits (n := m.minute) (by omega),
    takePart_paddedDigits (n := m.second) (by omega), Option.bind_eq_bind, Option.bind_some,
    List.isEmpty_nil, if_true, if_neg hne, hcast]
  exact ofParts?_parts m.truncate

/-- A stored date of any other year is not read back. -/
theorem ofStamp?_stamp_eq_none {m : Moment} (hy : ¬ m.HasPlainYear) :
    ofStamp? m.stamp = none := by
  have hdigits : ∃ sign, (sign = '-' ∨ sign = '+') ∧ ∃ ds, (∀ c ∈ ds, isAsciiDigit c = true) ∧
      m.stamp.toList = sign :: ds := by
    refine ⟨if m.year < 0 then '-' else '+', by split <;> simp, paddedDigits 4 m.year.natAbs ++
      (paddedDigits 2 m.month ++ (paddedDigits 2 m.day ++ (paddedDigits 2 m.hour ++
        (paddedDigits 2 m.minute ++ paddedDigits 2 m.writtenSecond)))), ?_, ?_⟩
    · intro c hc
      simp only [List.mem_append] at hc
      rcases hc with hc | hc | hc | hc | hc | hc <;> exact isAsciiDigit_of_mem_paddedDigits hc
    · rw [toList_stamp, yearDigits_of_signed hy, List.cons_append, List.append_nil]
  obtain ⟨sign, hs, ds, hds, heq⟩ := hdigits
  rw [ofStamp?, read?, heq]
  cases hyear : takeYear (sign :: ds) with
  | none => rfl
  | some p =>
    obtain ⟨y, rest⟩ := p
    obtain rfl := takeYear_sign hs hds hyear
    simp only [Layout.stamp, Option.bind_eq_bind, Option.bind_some, takePart_nil, Option.bind_none]

/-! ### The length of a stamp -/

theorem length_yearDigits_le (m : Moment) : (yearDigits m.year).length ≤ 7 := by
  obtain ⟨hleast, hgreatest⟩ := m.year_mem
  rw [leastYear] at hleast
  rw [greatestYear] at hgreatest
  have hpadded {n : Nat} (hn : n < 10 ^ 6) : (paddedDigits 4 n).length ≤ 6 := by
    have hdigits : (Nat.toDigits 10 n).length ≤ 6 :=
      (Nat.length_toDigits_le_iff (by decide) (by decide)).mpr hn
    rw [paddedDigits_eq, List.length_append, List.length_replicate]
    omega
  by_cases hplain : 0 ≤ m.year ∧ m.year ≤ 9999
  · rw [yearDigits_of_plain hplain]
    exact (hpadded (by omega)).trans (by decide)
  · rw [yearDigits_of_signed hplain, List.length_cons]
    exact Nat.succ_le_succ (hpadded (by omega))

/-- A stored date is a short text. -/
theorem utf8ByteSize_stamp_le (m : Moment) : m.stamp.utf8ByteSize ≤ 68 := by
  have hsize (cs : List Char) : (String.ofList cs).utf8ByteSize ≤ 4 * cs.length := by
    rw [String.utf8ByteSize_ofList]
    induction cs with
    | nil => exact Nat.zero_le _
    | cons c cs ih =>
      have := c.utf8Size_le_four
      rw [String.utf8Len_cons, List.length_cons]
      omega
  have hlength : m.stamp.toList.length ≤ 17 := by
    rw [toList_stamp_eq_append, List.length_append, length_behindYear]
    exact Nat.add_le_add_right m.length_yearDigits_le 10
  have := hsize m.stamp.toList
  rw [String.ofList_toList] at this
  omega

end Moment

end Catalog
