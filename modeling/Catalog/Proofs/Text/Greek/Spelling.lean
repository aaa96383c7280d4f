import Catalog.Proofs.Text.Greek.Fuse

/-!
# Folding before and after lower-casing

A text may be lower-cased character by character and then folded, or folded as it is. The ohm sign
makes the difference: folded as it is, it becomes an omega only after the first pass, too late to
give its voice to a pair in front of it. Nothing else is different, and nothing in the further
passes makes up for it.

## Main definitions

* `Greek.ohmBehindPair`: whether an ohm sign stands behind a pair that it gives no voice
* `Greek.Respelled`: texts after the first pass, by the one way and by the other
* `Greek.Voices`: texts that differ in the voice of labials only

## Main results

* `Greek.respelled_foldSounds`: the first pass by the two ways
* `Greek.Respelled.voices`: the further passes
* `Greek.Voices.eq_iff`: what is different in the end
-/

namespace Catalog.Greek

/-- Whether an ohm sign stands directly behind an alpha or epsilon with an upsilon. -/
def ohmBehindPair : List Char → Bool
  | c :: d :: r =>
    opensLabial c && upsilons.contains d && r.head? == some ohm || ohmBehindPair (d :: r)
  | _ => false

/-- One text is another one with omicrons for some omegas and, if so marked, with the voice for some
labials behind an alpha or epsilon. -/
inductive Respelled : Bool → List Char → List Char → Prop
  | nil : Respelled false [] []
  | cons (c : Char) {b : Bool} {s t : List Char} (h : Respelled b s t) :
    Respelled b (c :: s) (c :: t)
  | omega {b : Bool} {s t : List Char} (h : Respelled b s t) : Respelled b ('ω' :: s) ('ο' :: t)
  | labial {a : Char} (ha : opensLabial a = true) {b : Bool} {s t : List Char}
    (h : Respelled b s t) : Respelled true (a :: 'φ' :: s) (a :: 'β' :: t)

/-- One text is another one with the voice for some labials, if so marked. -/
inductive Voices : Bool → List Char → List Char → Prop
  | nil : Voices false [] []
  | cons (c : Char) {b : Bool} {s t : List Char} (h : Voices b s t) : Voices b (c :: s) (c :: t)
  | labial {b : Bool} {s t : List Char} (h : Voices b s t) : Voices true ('φ' :: s) ('β' :: t)

theorem Respelled.append (a : List Char) {b : Bool} {s t : List Char} (h : Respelled b s t) :
    Respelled b (a ++ s) (a ++ t) := by
  induction a with
  | nil => exact h
  | cons c a ih => exact .cons c ih

theorem opensLabial_of_upsilons {d : Char} (h : upsilons.contains d = true) :
    opensLabial d = false := by
  have hall : ∀ d ∈ upsilons, opensLabial d = false := by
    rw [upsilons_eq]
    decide
  exact hall d (List.contains_iff_mem.mp h)

theorem opensLabial_of_iotas {d : Char} (h : iotas.contains d = true) :
    opensLabial d = false := by
  have hall : ∀ d ∈ iotas, opensLabial d = false := by
    rw [iotas_eq]
    decide
  exact hall d (List.contains_iff_mem.mp h)

theorem isPair_of_not_second {d : Char} (hυ : upsilons.contains d = false)
    (hι : iotas.contains d = false) (c : Char) : isPair c d = false := by
  rw [isPair, hυ, hι]
  simp

theorem not_opensLabial_of_isPair {c d : Char} (h : isPair c d = true) :
    opensLabial d = false := by
  simp only [isPair, Bool.or_eq_true, Bool.and_eq_true] at h
  rcases h with (⟨-, h⟩ | ⟨-, h⟩) | ⟨-, h⟩
  · exact opensLabial_of_upsilons h
  · exact opensLabial_of_iotas h
  · exact opensLabial_of_iotas h

/-! ### The ohm sign along the steps -/

theorem ohmBehindPair_cons_of_not_opens {d : Char} (h : opensLabial d = false) (r : List Char) :
    ohmBehindPair (d :: r) = ohmBehindPair r := by
  cases r with
  | nil => rfl
  | cons e r => rw [ohmBehindPair, h]; rfl

theorem ohmBehindPair_labial {c d : Char} (hc : opensLabial c = true)
    (hd : upsilons.contains d = true) (r : List Char) :
    ohmBehindPair (c :: d :: r) = (r.head? == some ohm || ohmBehindPair r) := by
  rw [ohmBehindPair, hc, hd, ohmBehindPair_cons_of_not_opens (opensLabial_of_upsilons hd)]
  rfl

theorem ohmBehindPair_iota {c d : Char} (hd : iotas.contains d = true) (r : List Char) :
    ohmBehindPair (c :: d :: r) = ohmBehindPair r := by
  rw [ohmBehindPair, upsilons_of_iotas hd, Bool.and_false,
    ohmBehindPair_cons_of_not_opens (opensLabial_of_iotas hd)]
  rfl

theorem ohmBehindPair_single {c : Char} {s : List Char} (h : beginsPair c s = false) :
    ohmBehindPair (c :: s) = ohmBehindPair s := by
  cases s with
  | nil => rfl
  | cons d r =>
    have h : isPair c d = false := h
    simp only [isPair, Bool.or_eq_false_iff] at h
    rw [ohmBehindPair, h.1.1]
    rfl

/-! ### The first pass -/

/-- Lower-casing keeps what a character counts as in front of a pair. -/
theorem sameOpening_lowerHead (c : Char) :
    opensLabial (lowerHead c) = opensLabial c ∧ isAlpha (lowerHead c) = isAlpha c ∧
      yieldsToIota (lowerHead c) = yieldsToIota c := by
  rcases lowerHead_cases c with rfl | ⟨hc, hd⟩ | hmem
  · decide
  · rw [opensLabial_of_inert hc, opensLabial_of_inert hd, isAlpha_of_inert hc,
      isAlpha_of_inert hd, yieldsToIota_of_inert hc, yieldsToIota_of_inert hd]
    exact ⟨rfl, rfl, rfl⟩
  · have hall : ∀ c ∈ letters, opensLabial (lowerLetter c) = opensLabial c ∧
        isAlpha (lowerLetter c) = isAlpha c ∧ yieldsToIota (lowerLetter c) = yieldsToIota c := by
      decide
    rw [lowerHead_of_mem_letters hmem]
    exact hall c hmem

theorem flatMap_lowerChar_cons (c : Char) (s : List Char) :
    (c :: s).flatMap lowerChar = lowerHead c :: ((lowerChar c).tail ++ s.flatMap lowerChar) := by
  rw [List.flatMap_cons, lowerChar_eq_cons c]
  rfl

theorem beginsPair_lowerHead (c : Char) (s : List Char) :
    beginsPair (lowerHead c) (s.flatMap lowerChar) = beginsPair c s := by
  cases s with
  | nil => rfl
  | cons d r =>
    obtain ⟨hopens, hα, hyields⟩ := sameOpening_lowerHead c
    obtain ⟨hυ, hι, -⟩ := sameRole_lowerHead d
    rw [flatMap_lowerChar_cons]
    change isPair (lowerHead c) (lowerHead d) = isPair c d
    rw [isPair, isPair, hopens, hα, hyields, hυ, hι]

/-- The voice of what follows a pair is the same in lower case, unless it is an ohm sign. -/
theorem isVoiced_flatMap_lowerChar {s : List Char} (h : s.head? ≠ some ohm) :
    isVoiced (s.flatMap lowerChar).head? (s.flatMap lowerChar).tail.head? =
      isVoiced s.head? s.tail.head? := by
  cases s with
  | nil => rfl
  | cons c s =>
    have hne : c ≠ ohm := fun heq => h (by rw [heq]; rfl)
    obtain ⟨-, -, hsounded, htau, -⟩ := sameRole_lowerHead c
    rw [flatMap_lowerChar_cons, isVoiced_eq, isVoiced_eq]
    simp only [List.head?_cons, List.tail_cons, Option.any_some, hsounded hne, htau]
    cases hc : isTau c with
    | false => rfl
    | true =>
      have hletter : c ∈ letters := by
        by_contra hinert
        rw [isTau_of_inert hinert] at hc
        exact absurd hc (by decide)
      rw [lowerChar_of_mem_letters hletter]
      cases s with
      | nil => rfl
      | cons d s =>
        obtain ⟨-, -, -, -, hzeta⟩ := sameRole_lowerHead d
        rw [List.tail_cons, List.nil_append, flatMap_lowerChar_cons]
        simp only [List.head?_cons, Option.any_some, hzeta]

/-- A labial without case and accent is a matter of the voice. -/
theorem lowerChar_labial (d : Char) (next after : Option Char) :
    lowerChar (stripAccent (labial d next after)) =
      [if isVoiced next after then 'β' else 'φ'] := by
  have hall : ∀ b : Bool, lowerChar (stripAccent (if b then 'Β' else 'Φ')) =
      lowerChar (stripAccent (if b then 'β' else 'φ')) ∧
      lowerChar (stripAccent (if b then 'β' else 'φ')) = [if b then 'β' else 'φ'] := by
    decide
  unfold labial
  cases hupper : (d == 'Υ' || d == 'Ύ')
  · cases isVoiced next after
    · exact (hall false).2
    · exact (hall true).2
  · cases isVoiced next after
    · exact (hall false).1.trans (hall false).2
    · exact (hall true).1.trans (hall true).2

/-- A labial from an upsilon in lower case is a matter of the voice. -/
theorem stripAccent_labial_lowerHead {d : Char} (hd : upsilons.contains d = true)
    (next after : Option Char) : stripAccent (labial (lowerHead d) next after) =
      if isVoiced next after then 'β' else 'φ' := by
  have hall : ∀ d ∈ upsilons, (lowerHead d == 'Υ' || lowerHead d == 'Ύ') = false := by
    rw [upsilons_eq]
    decide
  simp only [labial, hall d (List.contains_iff_mem.mp hd)]
  cases isVoiced next after <;> rfl

theorem isVoiced_ohm (after : Option Char) : isVoiced (some ohm) after = false := by
  have hsounded : isSounded ohm = false := isSounded_of_inert (by decide)
  have htau : isTau ohm = false := by decide
  rw [isVoiced_eq, Option.any_some, Option.any_some, hsounded, htau]
  rfl

theorem isVoiced_of_vowel {c : Char} (h : vowels.contains c = true) (after : Option Char) :
    isVoiced (some c) after = true := by
  rw [isVoiced_eq, Option.any_some, isSounded, h]
  rfl

theorem lowerChar_foldLetter {c : Char} (h : c ∈ letters) :
    lowerChar (stripAccent (foldLetter c)) = [stripAccent (foldLetter (lowerLetter c))] := by
  have hall : ∀ c ∈ letters,
      lowerLetter (stripAccent (foldLetter c)) = stripAccent (foldLetter (lowerLetter c)) := by
    decide
  rw [lowerChar_of_mem_letters (stripAccent_mem_letters (foldLetter_mem_letters h)), hall c h]

/-- The lower-case form of a text that begins with two letters. -/
theorem flatMap_lowerChar_pair {c d : Char} (hc : c ∈ letters) (hd : d ∈ letters)
    (r : List Char) : (c :: d :: r).flatMap lowerChar =
      lowerHead c :: lowerHead d :: r.flatMap lowerChar := by
  rw [List.flatMap_cons, List.flatMap_cons, lowerChar_of_mem_letters hc,
    lowerChar_of_mem_letters hd, lowerHead_of_mem_letters hc, lowerHead_of_mem_letters hd]
  rfl

theorem lowerChar_of_opensLabial {c : Char} (hc : opensLabial c = true) :
    lowerChar (stripAccent c) = [lowerHead c] ∧ stripAccent (lowerHead c) = lowerHead c := by
  simp only [opensLabial, Bool.or_eq_true, beq_iff_eq] at hc
  rcases hc with ((rfl | rfl) | rfl) | rfl <;> decide

/-- What becomes of a pair with an iota, before and after lower-casing. -/
theorem lowerChar_of_iotas {d : Char} (hd : iotas.contains d = true) :
    lowerChar (stripAccent d) = [stripAccent (lowerHead d)] ∧
      lowerChar (stripAccent (epsilonOf d)) = [stripAccent (epsilonOf (lowerHead d))] := by
  have hall : ∀ d ∈ iotas, lowerChar (stripAccent d) = [stripAccent (lowerHead d)] ∧
      lowerChar (stripAccent (epsilonOf d)) = [stripAccent (epsilonOf (lowerHead d))] := by
    rw [iotas_eq]
    decide +kernel
  exact hall d (List.contains_iff_mem.mp hd)

/-- An ohm sign is in no pair, and so is the omega that it becomes. -/
theorem beginsPair_omega_flatMap_lowerChar (s : List Char) :
    beginsPair 'ω' (s.flatMap lowerChar) = false := by
  have hohm : lowerHead ohm = 'ω' := by decide
  rw [← hohm, beginsPair_lowerHead, beginsPair_of_inert (by decide)]

/-- **The first pass, before and after lower-casing.** -/
theorem respelled_foldSounds (s : List Char) :
    Respelled (ohmBehindPair s) ((foldSounds s).flatMap fun c => lowerChar (stripAccent c))
      (stripAccents (foldSounds (s.flatMap lowerChar))) := by
  induction s using foldSounds_induction with
  | nil => exact .nil
  | labial c d r hc hd ih =>
    have hc' := (sameOpening_lowerHead c).1.trans hc
    have hd' := (sameRole_lowerHead d).1.trans hd
    have hopens := lowerChar_of_opensLabial hc
    rw [foldSounds_labial hc hd, flatMap_lowerChar_pair (mem_letters_of_opensLabial hc)
      (mem_letters_of_upsilons hd), foldSounds_labial hc' hd', List.flatMap_cons,
      List.flatMap_cons, lowerChar_labial, hopens.1, ohmBehindPair_labial hc hd]
    simp only [stripAccents, List.map_cons, hopens.2, stripAccent_labial_lowerHead hd]
    by_cases hohm : r.head? = some ohm
    · obtain ⟨r, rfl⟩ := List.head?_eq_some_iff.mp hohm
      have hω : lowerHead ohm = 'ω' := by decide
      rw [List.head?_cons, isVoiced_ohm, flatMap_lowerChar_cons, hω, List.head?_cons,
        isVoiced_of_vowel (by decide)]
      rw [flatMap_lowerChar_cons, hω] at ih
      exact .labial ((sameOpening_lowerHead c).1.trans hc) ih
    · rw [isVoiced_flatMap_lowerChar hohm, beq_eq_false_iff_ne.mpr hohm]
      exact .cons _ (.cons _ ih)
  | epsilon c d r hc hd ih =>
    have hc' := (sameOpening_lowerHead c).2.1.trans hc
    have hd' := (sameRole_lowerHead d).2.1.trans hd
    rw [foldSounds_epsilon hc hd, flatMap_lowerChar_pair (mem_letters_of_isAlpha hc)
      (mem_letters_of_iotas hd), foldSounds_epsilon hc' hd', List.flatMap_cons,
      (lowerChar_of_iotas hd).2, ohmBehindPair_iota hd]
    exact ih.cons _
  | iota c d r hc hd ih =>
    have hc' := (sameOpening_lowerHead c).2.2.trans hc
    have hd' := (sameRole_lowerHead d).2.1.trans hd
    rw [foldSounds_iota hc hd, flatMap_lowerChar_pair (mem_letters_of_yieldsToIota hc)
      (mem_letters_of_iotas hd), foldSounds_iota hc' hd', List.flatMap_cons,
      (lowerChar_of_iotas hd).1, ohmBehindPair_iota hd]
    exact ih.cons _
  | single c s hpair ih =>
    have hpair' := (beginsPair_lowerHead c s).trans hpair
    rw [foldSounds_cons hpair, List.flatMap_cons, ohmBehindPair_single hpair, List.flatMap_cons]
    by_cases hc : c ∈ letters
    · rw [lowerHead_of_mem_letters hc] at hpair'
      rw [lowerChar_foldLetter hc, lowerChar_of_mem_letters hc, List.singleton_append,
        List.singleton_append, foldSounds_cons hpair']
      exact ih.cons _
    · rw [foldLetter_of_inert hc, stripAccent_of_inert hc]
      by_cases hohm : c = ohm
      · have hω : lowerChar ohm = ['ω'] := by decide
        rw [hohm, hω, List.singleton_append, List.singleton_append,
          foldSounds_cons (beginsPair_omega_flatMap_lowerChar s)]
        exact ih.omega
      · have hinert : ∀ d ∈ lowerChar c, IsInert d := fun d hd =>
          isInert_of_mem_lowerChar hc hohm hd
        rw [foldSounds_append_of_inert hinert, stripAccents, List.map_append, ← stripAccents,
          stripAccents_of_inert hinert]
        exact ih.append _

/-! ### The further passes -/

namespace Voices

variable {b : Bool} {s t : List Char}

/-- **Texts that differ in the voice of labials are equal only if none is marked.** -/
theorem eq_iff (h : Voices b s t) : s = t ↔ b = false := by
  induction h with
  | nil => simp
  | cons c h ih => rw [List.cons.injEq, ← ih]; simp
  | labial h ih => simp

theorem length_eq (h : Voices b s t) : s.length = t.length := by
  induction h with
  | nil => rfl
  | cons c h ih => rw [List.length_cons, List.length_cons, ih]
  | labial h ih => rw [List.length_cons, List.length_cons, ih]

theorem absorb (c : Char) (h : Voices b s t) : Voices b (absorb c s) (absorb c t) := by
  cases h with
  | nil =>
    rw [absorb_of_head (by simp)]
    exact .cons c .nil
  | cons d h =>
    unfold Greek.absorb
    rw [List.head?_cons, List.head?_cons]
    split
    · exact h.cons d
    · exact (h.cons d).cons c
  | labial h =>
    rw [absorb_of_head (by simp), absorb_of_head (by simp)]
    exact h.labial.cons c

theorem prepend (c : Char) (h : Voices b s t) : Voices b (prepend c s) (prepend c t) := by
  cases h with
  | nil =>
    rw [prepend_of_head (by simp)]
    exact .cons c .nil
  | cons d h =>
    unfold Greek.prepend
    rw [List.head?_cons, List.head?_cons]
    split
    · exact h.absorb 'ε'
    · exact (h.cons d).absorb c
  | labial h =>
    rw [prepend_of_head (by simp), prepend_of_head (by simp)]
    exact h.labial.cons c

end Voices

namespace Respelled

variable {b : Bool} {s t : List Char}

/-- A text gives its voice to a pair in front of it as its respelled form does. -/
theorem isVoiced_eq (h : Respelled b s t) :
    isVoiced s.head? s.tail.head? = isVoiced t.head? t.tail.head? := by
  cases h with
  | nil => rfl
  | cons c h =>
    rw [Greek.isVoiced_eq, Greek.isVoiced_eq]
    cases h with
    | nil => rfl
    | cons d h => rfl
    | omega h => rfl
    | labial ha h => rfl
  | omega h =>
    rw [List.head?_cons, List.head?_cons, isVoiced_of_vowel (by decide),
      isVoiced_of_vowel (by decide)]
  | @labial a ha _ _ _ h =>
    have hvowel : vowels.contains a = true := by
      simp only [opensLabial, Bool.or_eq_true, beq_iff_eq] at ha
      rcases ha with ((rfl | rfl) | rfl) | rfl <;> decide
    rw [List.head?_cons, List.head?_cons, isVoiced_of_vowel hvowel, isVoiced_of_vowel hvowel]

theorem labial_eq (h : Respelled b s t) (d : Char) :
    Greek.labial d s.head? s.tail.head? = Greek.labial d t.head? t.tail.head? := by
  rw [Greek.labial, Greek.labial, h.isVoiced_eq]

theorem beginsPair_eq (h : Respelled b s t) (c : Char) : beginsPair c s = beginsPair c t := by
  cases h with
  | nil => rfl
  | cons d h => rfl
  | omega h =>
    change isPair c 'ω' = isPair c 'ο'
    rw [isPair_of_not_second (by decide) (by decide),
      isPair_of_not_second (by decide) (by decide)]
  | labial ha h => rfl

/-- A pair in front is respelled as it is. -/
theorem exists_of_isPair {c d : Char} {r : List Char} (hpair : isPair c d = true)
    (h : Respelled b (c :: d :: r) t) : ∃ t', t = c :: d :: t' ∧ Respelled b r t' := by
  cases h with
  | cons _ h =>
    cases h with
    | cons _ h => exact ⟨_, rfl, h⟩
    | omega h =>
      rw [isPair_of_not_second (by decide) (by decide)] at hpair
      exact absurd hpair (by decide)
    | labial ha h =>
      rw [not_opensLabial_of_isPair hpair] at ha
      exact absurd ha (by decide)
  | omega h => exact absurd hpair (by simp [isPair, opensLabial, isAlpha, yieldsToIota])
  | labial ha h =>
    rw [isPair_of_not_second (by decide) (by decide)] at hpair
    exact absurd hpair (by decide)

theorem exists_of_beginsPair_omicron {s : List Char} (hs : ∀ c ∈ s, IsPlain c)
    (h : beginsPair 'ο' s = true) : ∃ r, s = 'ι' :: r := by
  cases s with
  | nil => exact absurd h (by decide)
  | cons d r =>
    rw [List.forall_mem_cons] at hs
    have hι : iotas.contains d = true := by
      have h : isPair 'ο' d = true := h
      simpa [isPair, opensLabial, isAlpha, yieldsToIota] using h
    exact ⟨r, by rw [eq_iota_of_isPlain hs.1 hι]⟩

/-- A letter that is first in no pair is kept by the further passes. -/
theorem fuse_foldSounds_of_not_first {c : Char} (hlabial : opensLabial c = false)
    (hyields : yieldsToIota c = false) (hc : foldLetter c = c) (r : List Char) :
    fuse (foldSounds (c :: r)) = c :: fuse (foldSounds r) := by
  rw [foldSounds_cons (beginsPair_of_not_first hlabial hyields r), hc, fuse_cons]
  refine prepend_of_ne ?_ ?_ ?_ _
  · rintro rfl
    exact absurd hlabial (by decide)
  · rintro rfl
    exact absurd hlabial (by decide)
  · rintro rfl
    exact absurd hyields (by decide)

theorem fuse_foldSounds_iota (r : List Char) :
    fuse (foldSounds ('ι' :: r)) = 'ι' :: fuse (foldSounds r) :=
  fuse_foldSounds_of_not_first (by decide) (by decide) rfl r

/-- **The further passes keep what is marked.** -/
theorem voices (h : Respelled b s t) (hs : ∀ c ∈ s, IsPlain c) :
    Voices b (fuse (foldSounds s)) (fuse (foldSounds t)) := by
  induction s using foldSounds_induction generalizing b t with
  | nil =>
    cases h
    exact .nil
  | labial c d r hc hd ih =>
    rw [List.forall_mem_cons, List.forall_mem_cons] at hs
    obtain ⟨t, rfl, hr⟩ := h.exists_of_isPair (by rw [isPair, hc, hd]; rfl)
    rw [foldSounds_labial hc hd, foldSounds_labial hc hd, hr.labial_eq]
    exact ((ih hr hs.2.2).prepend _).prepend _
  | epsilon c d r hc hd ih =>
    rw [List.forall_mem_cons, List.forall_mem_cons] at hs
    obtain ⟨t, rfl, hr⟩ := h.exists_of_isPair (by rw [isPair, hc, hd]; simp)
    rw [foldSounds_epsilon hc hd, foldSounds_epsilon hc hd]
    exact (ih hr hs.2.2).prepend _
  | iota c d r hc hd ih =>
    rw [List.forall_mem_cons, List.forall_mem_cons] at hs
    obtain ⟨t, rfl, hr⟩ := h.exists_of_isPair (by rw [isPair, hc, hd]; simp)
    rw [foldSounds_iota hc hd, foldSounds_iota hc hd]
    exact (ih hr hs.2.2).prepend _
  | single c s hpair ih =>
    rw [List.forall_mem_cons] at hs
    rw [foldSounds_cons hpair, fuse_cons]
    cases h with
    | cons _ h =>
      rw [foldSounds_cons ((h.beginsPair_eq c).symm.trans hpair)]
      exact (ih h hs.2).prepend _
    | @omega _ _ t h =>
      cases hpair' : beginsPair 'ο' t with
      | false =>
        rw [foldSounds_cons hpair']
        exact (ih h hs.2).prepend 'ο'
      | true =>
        -- One text loses its omicron in this pass, the other one when it is fused.
        obtain ⟨r, rfl⟩ := exists_of_beginsPair_omicron hs.2 ((h.beginsPair_eq 'ο').trans hpair')
        have hvoices := ih h hs.2
        cases h with
        | @cons _ _ _ t h =>
          rw [fuse_foldSounds_iota, fuse_foldSounds_iota] at hvoices
          rw [fuse_foldSounds_iota, foldSounds_iota rfl (by decide), fuse_cons,
            prepend_of_ne (c := 'ι') (by decide) (by decide) (by decide)]
          exact hvoices
        | labial ha h => exact absurd ha (by decide)
    | @labial _ ha _ s t h =>
      have hφ := fuse_foldSounds_of_not_first (c := 'φ') (by decide) (by decide) rfl
      have hβ := fuse_foldSounds_of_not_first (c := 'β') (by decide) (by decide) rfl
      have hpair' : beginsPair c ('β' :: t) = false :=
        isPair_of_not_second (by decide) (by decide) c
      have hvoices := ih (h.cons 'φ') hs.2
      rw [hφ, hφ] at hvoices
      rw [foldSounds_cons hpair', fuse_cons, hφ, hβ]
      cases hvoices with
      | cons _ hvoices => exact hvoices.labial.prepend _

end Respelled

end Catalog.Greek
