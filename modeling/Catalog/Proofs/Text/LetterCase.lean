import Catalog.Text.LetterCase
import Mathlib.Data.List.TakeWhile

/-!
# Letters in lower case

What lower-casing makes of a character is in lower case. For the mappings of the table this is a
property of the table: no run holds an image of a run, so that it is enough to compare runs, and no
character has to be looked at on its own.

## Main definitions

* `IsLower`: characters that lower-casing leaves alone
* `CaseRun.missedBy`: a run without the images of another one

## Main results

* `isLower_of_mem_lowerChar`: what lower-casing makes of a character stays
* `mem_lowerChar`: where the characters of a lower-case form come from
-/

namespace Catalog

/-- A character that stands for itself in lower case. -/
def IsLower (c : Char) : Prop :=
  lowerChar c = [c]

instance (c : Char) : Decidable (IsLower c) :=
  inferInstanceAs (Decidable (_ = _))

theorem CaseRun.contains_iff {r : CaseRun} {n : Nat} :
    r.contains n = true ↔ r.first ≤ n ∧ n ≤ r.last ∧ (n - r.first) % r.step = 0 := by
  simp [CaseRun.contains, and_assoc]

/-! ### The images of a run -/

/-- The greatest image of a run that is mapped from some code point on. -/
def greatestImage (r : CaseRun × Nat) : Nat :=
  r.2 + (r.1.last - r.1.first)

/-- A run without the images of another one: it lies before or behind them, or the other one has
a single image that is not in it, or both take every other code point and alternate. -/
def CaseRun.missedBy (q : CaseRun) (r : CaseRun × Nat) : Bool :=
  Nat.blt (greatestImage r) q.first || Nat.blt q.last r.2 ||
    (if r.1.first == r.1.last then !q.contains r.2
     else r.1.step == 2 && q.step == 2 && (r.2 + q.first) % 2 == 1)

theorem not_contains_of_missedBy {q : CaseRun} {r : CaseRun × Nat} (h : q.missedBy r = true)
    {n : Nat} (hn : r.1.contains n = true) : q.contains (r.2 + (n - r.1.first)) = false := by
  rw [Bool.eq_false_iff]
  intro hq
  obtain ⟨hl, hg, hmod⟩ := CaseRun.contains_iff.mp hn
  obtain ⟨ql, qg, qmod⟩ := CaseRun.contains_iff.mp hq
  simp only [CaseRun.missedBy, greatestImage, Bool.or_eq_true, Nat.blt_eq] at h
  rcases h with (h | h) | h
  · omega
  · omega
  · split at h
    · next hsingle =>
      have hfirst : n - r.1.first = 0 := by
        have := beq_iff_eq.mp hsingle
        omega
      rw [hfirst, Nat.add_zero] at hq
      rw [hq] at h
      exact absurd h (by decide)
    · simp only [Bool.and_eq_true, beq_iff_eq] at h
      obtain ⟨⟨hr, hstep⟩, hodd⟩ := h
      rw [hr] at hmod
      rw [hstep] at qmod
      omega

/-- No run holds an image of a run. -/
theorem missedBy_of_mem {r q : CaseRun × Nat} (hr : r ∈ lowerRuns) (hq : q ∈ lowerRuns) :
    q.1.missedBy r = true := by
  have h : (lowerRuns.all fun r => lowerRuns.all fun q => q.1.missedBy r) = true := by
    decide +kernel
  exact List.all_eq_true.mp (List.all_eq_true.mp h r hr) q hq

/-- The images of a run are characters, and none of them is a capital `I` with a dot. Outside ASCII
they come from outside ASCII, except for the `k` that a kelvin sign becomes. -/
theorem images_of_mem {r : CaseRun × Nat} (hr : r ∈ lowerRuns) :
    (greatestImage r < 0xd800 ∨ 0xdfff < r.2 ∧ greatestImage r < 0x110000) ∧
      (greatestImage r < 0x130 ∨ 0x130 < r.2) ∧
      (r.1.first < 0x80 ∨ 0x80 ≤ r.2 ∨ r.1.first = r.1.last ∧ r.2 = 0x6b) := by
  have h : ∀ r ∈ lowerRuns,
      (greatestImage r < 0xd800 ∨ 0xdfff < r.2 ∧ greatestImage r < 0x110000) ∧
      (greatestImage r < 0x130 ∨ 0x130 < r.2) ∧
      (r.1.first < 0x80 ∨ 0x80 ≤ r.2 ∨ r.1.first = r.1.last ∧ r.2 = 0x6b) := by
    decide +kernel
  exact h r hr

/-- The image of a code point under a run. -/
def imageOf (r : CaseRun × Nat) (n : Nat) : Nat :=
  r.2 + (n - r.1.first)

theorem toNat_ofNat_imageOf {r : CaseRun × Nat} (hr : r ∈ lowerRuns) {n : Nat}
    (hn : r.1.contains n = true) : (Char.ofNat (imageOf r n)).toNat = imageOf r n := by
  obtain ⟨hvalid, -⟩ := images_of_mem hr
  obtain ⟨hl, hg, -⟩ := CaseRun.contains_iff.mp hn
  have himage : (imageOf r n).isValidChar := by
    unfold greatestImage at hvalid
    unfold imageOf
    rw [Nat.isValidChar]
    omega
  have hvalue : Char.ofNat (imageOf r n) = Char.ofNatAux _ himage := dif_pos himage
  rw [hvalue]
  rfl

/-! ### The lower-case form of a character -/

theorem lowerChar_of_ascii {c : Char} (hc : c.toNat < 0x80) : lowerChar c = [c.toLower] := by
  rw [lowerChar, if_pos hc]

/-- Where the characters of a lower-case form come from. -/
theorem mem_lowerChar {c d : Char} (h : d ∈ lowerChar c) :
    c.toNat < 0x80 ∧ d = c.toLower ∨ c = 'İ' ∧ (d = 'i' ∨ d = Char.ofNat 0x307) ∨
      (∃ r ∈ lowerRuns, r.1.contains c.toNat = true ∧ 0x80 ≤ c.toNat ∧
        d = Char.ofNat (imageOf r c.toNat)) ∨ d = c ∧ IsLower c := by
  by_cases hascii : c.toNat < 0x80
  · rw [lowerChar_of_ascii hascii, List.mem_singleton] at h
    exact .inl ⟨hascii, h⟩
  · by_cases hdotted : c = 'İ'
    · refine .inr (.inl ⟨hdotted, ?_⟩)
      rw [lowerChar, if_neg hascii, if_pos hdotted] at h
      simpa using h
    · cases hfind : lowerRuns.find? fun r => r.1.contains c.toNat with
      | some r =>
        rw [lowerChar, if_neg hascii, if_neg hdotted, hfind, List.mem_singleton] at h
        have hmem := List.mem_of_find?_eq_some hfind
        have hcontains := List.find?_some hfind
        exact .inr (.inr (.inl ⟨r, hmem, hcontains, by omega, h⟩))
      | none =>
        have hlower : lowerChar c = [c] := by
          rw [lowerChar, if_neg hascii, if_neg hdotted, hfind]
        rw [hlower, List.mem_singleton] at h
        exact .inr (.inr (.inr ⟨h, hlower⟩))

/-- What holds of the ASCII characters can be checked one by one. -/
theorem forall_ascii {p : Char → Prop} (h : ∀ n < 0x80, p (Char.ofNat n)) {c : Char}
    (hc : c.toNat < 0x80) : p c := by
  have hp := h c.toNat hc
  rwa [Char.ofNat_toNat] at hp

/-- What holds of the characters between two code points can be checked one by one. -/
theorem forall_of_range {p : Char → Prop} {l g : Nat} (h : ∀ k ≤ g - l, p (Char.ofNat (l + k)))
    {c : Char} (hl : l ≤ c.toNat) (hg : c.toNat ≤ g) : p c := by
  have hp := h (c.toNat - l) (by omega)
  rwa [Nat.add_sub_cancel' hl, Char.ofNat_toNat] at hp

theorem toLower_of_ascii {c : Char} (hc : c.toNat < 0x80) :
    c.toLower.toNat < 0x80 ∧ c.toLower.toLower = c.toLower := by
  have h : ∀ n < 0x80, (Char.ofNat n).toLower.toNat < 0x80 ∧
      (Char.ofNat n).toLower.toLower = (Char.ofNat n).toLower := by decide
  exact forall_ascii (p := fun c => c.toLower.toNat < 0x80 ∧ c.toLower.toLower = c.toLower) h hc

/-- The only ASCII character that another one becomes is the `k` of the kelvin sign. -/
theorem imageOf_eq_of_lt {r : CaseRun × Nat} (hr : r ∈ lowerRuns) {n : Nat}
    (hn : r.1.contains n = true) (hn80 : 0x80 ≤ n) (hsmall : imageOf r n < 0x80) :
    imageOf r n = 0x6b := by
  have hruns : ∀ r ∈ lowerRuns, r.1.first < 0x80 → r.1.last < 0x80 := by decide +kernel
  have hlast := hruns r hr
  obtain ⟨-, -, hascii⟩ := images_of_mem hr
  obtain ⟨hl, hg, -⟩ := CaseRun.contains_iff.mp hn
  unfold imageOf at hsmall ⊢
  omega

/-- An image is in lower case. -/
theorem isLower_image {r : CaseRun × Nat} (hr : r ∈ lowerRuns) {n : Nat}
    (hn : r.1.contains n = true) (hn80 : 0x80 ≤ n) : IsLower (Char.ofNat (imageOf r n)) := by
  have htoNat := toNat_ofNat_imageOf hr hn
  obtain ⟨-, hdotted, -⟩ := images_of_mem hr
  obtain ⟨hl, hg, -⟩ := CaseRun.contains_iff.mp hn
  by_cases hsmall : imageOf r n < 0x80
  · rw [imageOf_eq_of_lt hr hn hn80 hsmall]
    decide
  · have hne : Char.ofNat (imageOf r n) ≠ 'İ' := by
      intro heq
      have : imageOf r n = 0x130 := by rw [← htoNat, heq]; rfl
      unfold imageOf at this
      unfold greatestImage at hdotted
      omega
    have hfind :
        (lowerRuns.find? fun q => q.1.contains (Char.ofNat (imageOf r n)).toNat) = none := by
      rw [List.find?_eq_none]
      intro q hq
      rw [htoNat, imageOf, not_contains_of_missedBy (missedBy_of_mem hr hq) hn]
      decide
    rw [IsLower, lowerChar, if_neg (by rwa [htoNat]), if_neg hne, hfind]

/-- **What lower-casing makes of a character stays.** -/
theorem isLower_of_mem_lowerChar {c d : Char} (h : d ∈ lowerChar c) : IsLower d := by
  rcases mem_lowerChar h with ⟨hc, rfl⟩ | ⟨-, rfl | rfl⟩ | ⟨r, hr, hn, hn80, rfl⟩ | ⟨rfl, hlower⟩
  · obtain ⟨hlt, hidem⟩ := toLower_of_ascii hc
    rw [IsLower, lowerChar_of_ascii hlt, hidem]
  · decide
  · decide
  · exact isLower_image hr hn hn80
  · exact hlower

theorem lowerChar_length_le (c : Char) : 1 ≤ (lowerChar c).length ∧ (lowerChar c).length ≤ 2 := by
  unfold lowerChar
  split
  · simp
  · split
    · simp
    · split <;> simp

/-! ### The lower-case form of a text -/

theorem mem_lowercaseFrom {inWord : Bool} {s : List Char} {d : Char}
    (h : d ∈ lowercaseFrom inWord s) : d = 'ς' ∨ ∃ c ∈ s, d ∈ lowerChar c := by
  induction s generalizing inWord with
  | nil => exact absurd h List.not_mem_nil
  | cons c s ih =>
    rw [lowercaseFrom, List.mem_append] at h
    rcases h with h | h
    · split at h
      · next hsigma =>
        split at h
        · exact .inl (List.mem_singleton.mp h)
        · refine .inr ⟨c, List.mem_cons_self .., ?_⟩
          rw [hsigma, List.mem_singleton.mp h]
          decide
      · exact .inr ⟨c, List.mem_cons_self .., h⟩
    · exact (ih h).imp_right fun ⟨e, he, hd⟩ => ⟨e, List.mem_cons_of_mem _ he, hd⟩

theorem mem_lowercaseFrom_of_mem {inWord : Bool} {s : List Char} {c d : Char} (hc : c ∈ s)
    (hne : c ≠ 'Σ') (hd : d ∈ lowerChar c) : d ∈ lowercaseFrom inWord s := by
  induction s generalizing inWord with
  | nil => exact absurd hc List.not_mem_nil
  | cons e s ih =>
    rw [lowercaseFrom, List.mem_append]
    rcases List.mem_cons.mp hc with rfl | hc
    · rw [if_neg hne]
      exact .inl hd
    · exact .inr (ih hc)

/-- Without a capital sigma the characters around one do not matter. -/
theorem lowercaseFrom_of_forall_ne {inWord : Bool} {s : List Char} (hs : ∀ c ∈ s, c ≠ 'Σ') :
    lowercaseFrom inWord s = s.flatMap lowerChar := by
  induction s generalizing inWord with
  | nil => rfl
  | cons c s ih =>
    rw [List.forall_mem_cons] at hs
    rw [lowercaseFrom, if_neg hs.1, ih hs.2, List.flatMap_cons]

theorem lowercase_of_forall_ne {s : List Char} (hs : ∀ c ∈ s, c ≠ 'Σ') :
    lowercase s = s.flatMap lowerChar :=
  lowercaseFrom_of_forall_ne hs

theorem flatMap_lowerChar_of_isLower {s : List Char} (hs : ∀ c ∈ s, IsLower c) :
    s.flatMap lowerChar = s := by
  induction s with
  | nil => rfl
  | cons c s ih =>
    rw [List.forall_mem_cons] at hs
    rw [List.flatMap_cons, hs.1, ih hs.2]
    rfl

/-- A text in lower case stays. -/
theorem lowercase_of_isLower {s : List Char} (hs : ∀ c ∈ s, IsLower c) : lowercase s = s := by
  have hne : ∀ c ∈ s, c ≠ 'Σ' := by
    rintro c hc rfl
    exact absurd (hs 'Σ' hc) (by decide)
  rw [lowercase_of_forall_ne hne, flatMap_lowerChar_of_isLower hs]

theorem length_lowercaseFrom_le (inWord : Bool) (s : List Char) :
    (lowercaseFrom inWord s).length ≤ 2 * s.length := by
  induction s generalizing inWord with
  | nil => exact le_rfl
  | cons c s ih =>
    rw [lowercaseFrom, List.length_append, List.length_cons]
    have hrest := ih (if isCaseIgnorable c then inWord else isCased c)
    have hfirst := (lowerChar_length_le c).2
    split
    · rw [List.length_singleton]
      omega
    · omega

theorem length_lowercase_le (s : List Char) : (lowercase s).length ≤ 2 * s.length :=
  length_lowercaseFrom_le false s

end Catalog
