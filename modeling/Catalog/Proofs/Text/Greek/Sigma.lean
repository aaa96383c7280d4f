import Catalog.Proofs.Text.Greek.Fuse
import Catalog.Text.Analyzer

/-!
# Sigmas and folding

Folding is blind to the form of a sigma: it moves no sigma, drops none, and decides nothing by one.
So what becomes of a text splits into two parts, the text with all sigmas in one form and the forms
of its sigmas in their order, and the two parts together are the text. Only lower-casing chooses a
form, by whether letters stand around the sigma, and folding replaces letters by letters.

## Main definitions

* `blur`: a character without the form of a sigma
* `sigmas`: the sigmas of a text in lower case, in order

## Main results

* `eq_of_map_blur_of_sigmas`: the two parts together are the text
* `Greek.foldSounds_map_blur`, `Greek.fuse_map_blur`: folding is blind to the forms
* `Greek.sigmas_foldOnce`: a pass gives the forms that lower-casing gives
* `Greek.sigmas_finalSigma_normalize`: a last sigma gets its form before or after folding
-/

namespace Catalog

/-- A character without the form of a sigma. -/
def blur (c : Char) : Char :=
  if c = 'ς' then 'σ' else c

/-- Whether a character is a sigma in lower case. -/
def isSigma (c : Char) : Bool :=
  c == 'σ' || c == 'ς'

/-- The sigmas of a text in lower case. -/
def sigmas (s : List Char) : List Char :=
  s.filter isSigma

theorem blur_of_ne {c : Char} (h : c ≠ 'ς') : blur c = c :=
  if_neg h

theorem isSigma_blur (c : Char) : isSigma (blur c) = isSigma c := by
  unfold blur
  split
  · next h => rw [h]; rfl
  · rfl

theorem blur_of_not_isSigma {c : Char} (h : isSigma c = false) : blur c = c := by
  refine blur_of_ne ?_
  rintro rfl
  exact absurd h (by decide)

theorem sigmas_cons_of_isSigma {c : Char} (h : isSigma c = true) (s : List Char) :
    sigmas (c :: s) = c :: sigmas s :=
  List.filter_cons_of_pos h

theorem sigmas_cons_of_not_isSigma {c : Char} (h : isSigma c = false) (s : List Char) :
    sigmas (c :: s) = sigmas s :=
  List.filter_cons_of_neg (by simp [h])

@[simp] theorem sigmas_append (s t : List Char) : sigmas (s ++ t) = sigmas s ++ sigmas t :=
  List.filter_append ..

/-- **A text is determined by its characters without the forms of sigmas and by these forms.** -/
theorem eq_of_map_blur_of_sigmas {s t : List Char} (hblur : s.map blur = t.map blur)
    (hsigmas : sigmas s = sigmas t) : s = t := by
  induction s generalizing t with
  | nil => exact (List.map_eq_nil_iff.mp hblur.symm).symm
  | cons c s ih =>
    cases t with
    | nil => exact absurd hblur (by simp)
    | cons d t =>
      rw [List.map_cons, List.map_cons, List.cons.injEq] at hblur
      obtain ⟨hhead, htail⟩ := hblur
      have hkind : isSigma c = isSigma d := by rw [← isSigma_blur c, hhead, isSigma_blur]
      cases hc : isSigma c with
      | true =>
        rw [sigmas_cons_of_isSigma hc, sigmas_cons_of_isSigma (hkind.symm.trans hc),
          List.cons.injEq] at hsigmas
        rw [hsigmas.1, ih htail hsigmas.2]
      | false =>
        have hd := hkind.symm.trans hc
        rw [sigmas_cons_of_not_isSigma hc, sigmas_cons_of_not_isSigma hd] at hsigmas
        rw [blur_of_not_isSigma hc, blur_of_not_isSigma hd] at hhead
        rw [hhead, ih htail hsigmas]

/-! ### Lower-casing -/

/-- Lower-casing a text and lower-casing its characters differ in the forms of sigmas only. -/
theorem map_blur_lowercaseFrom (inWord : Bool) (s : List Char) :
    (lowercaseFrom inWord s).map blur = (s.flatMap lowerChar).map blur := by
  induction s generalizing inWord with
  | nil => rfl
  | cons c s ih =>
    rw [lowercaseFrom, List.map_append, ih, List.flatMap_cons, List.map_append]
    congr 1
    split
    · next h =>
      subst h
      have hcapital : lowerChar 'Σ' = ['σ'] := by decide
      rw [hcapital]
      split <;> decide
    · rfl

/-- **A text is lower-cased as its characters are if the sigmas get the same forms.** -/
theorem lowercase_eq_iff {s t : List Char} (h : t.map blur = (s.flatMap lowerChar).map blur) :
    lowercase s = t ↔ sigmas (lowercase s) = sigmas t := by
  refine ⟨fun heq => by rw [heq], fun hsigmas => eq_of_map_blur_of_sigmas ?_ hsigmas⟩
  rw [lowercase, map_blur_lowercaseFrom, h]

/-! ### A last sigma -/

theorem finalSigma_append (s : List Char) : finalSigma (s ++ ['σ']) = s ++ ['ς'] := by
  simp [finalSigma]

theorem finalSigma_of_getLast? {s : List Char} (h : s.getLast? ≠ some 'σ') : finalSigma s = s := by
  unfold finalSigma
  split
  · next r hr =>
    refine absurd ?_ h
    rw [← List.head?_reverse, hr]
    rfl
  · rfl

theorem exists_of_getLast? {s : List Char} {c : Char} (h : s.getLast? = some c) :
    ∃ r, s = r ++ [c] := by
  obtain ⟨r, hr⟩ := List.getLast?_eq_some_iff.mp h
  exact ⟨r, hr⟩

theorem mem_finalSigma {s : List Char} {d : Char} (h : d ∈ finalSigma s) : d = 'ς' ∨ d ∈ s := by
  by_cases hlast : s.getLast? = some 'σ'
  · obtain ⟨r, rfl⟩ := exists_of_getLast? hlast
    rw [finalSigma_append, List.mem_append, List.mem_singleton] at h
    exact h.symm.imp_right fun h => List.mem_append_left _ h
  · rw [finalSigma_of_getLast? hlast] at h
    exact .inr h

theorem map_blur_finalSigma (s : List Char) : (finalSigma s).map blur = s.map blur := by
  by_cases h : s.getLast? = some 'σ'
  · obtain ⟨r, rfl⟩ := exists_of_getLast? h
    rw [finalSigma_append, List.map_append, List.map_append]
    rfl
  · rw [finalSigma_of_getLast? h]

/-- The forms of the sigmas, with the last one in its final form, depend on the forms before and on
whether there is a last sigma to be changed. -/
theorem sigmas_finalSigma {s t : List Char} (hsigmas : sigmas s = sigmas t)
    (hlast : s.getLast? = some 'σ' ↔ t.getLast? = some 'σ') :
    sigmas (finalSigma s) = sigmas (finalSigma t) := by
  by_cases h : s.getLast? = some 'σ'
  · obtain ⟨r, rfl⟩ := exists_of_getLast? h
    obtain ⟨q, rfl⟩ := exists_of_getLast? (hlast.mp h)
    rw [sigmas_append, sigmas_append] at hsigmas
    rw [finalSigma_append, finalSigma_append, sigmas_append, sigmas_append,
      List.append_cancel_right hsigmas]
  · rw [finalSigma_of_getLast? h, finalSigma_of_getLast? fun ht => h (hlast.mpr ht), hsigmas]

theorem getLast?_cons_eq {c d : Char} {s : List Char} :
    (c :: s).getLast? = some d ↔ c = d ∧ s = [] ∨ s.getLast? = some d := by
  cases s with
  | nil => simp
  | cons e s => simp [List.getLast?_cons_cons]

theorem getLast?_cons_of_ne {c d : Char} (h : c ≠ d) {s : List Char} :
    (c :: s).getLast? = some d ↔ s.getLast? = some d := by
  simp [getLast?_cons_eq, h]

namespace Greek

/-! ### Folding is blind to the forms -/

theorem isSigma_of_letters {c : Char} (h : c ∈ letters) : isSigma c = false := by
  have hall : ∀ c ∈ letters, isSigma c = false := by decide
  exact hall c h

theorem blur_of_letters {c : Char} (h : c ∈ letters) : blur c = c :=
  blur_of_not_isSigma (isSigma_of_letters h)

theorem isInert_blur {c : Char} (h : IsInert c) : IsInert (blur c) := by
  unfold blur
  split
  · decide
  · exact h

theorem sameRole_blur (c : Char) :
    upsilons.contains (blur c) = upsilons.contains c ∧
      iotas.contains (blur c) = iotas.contains c ∧ isSounded (blur c) = isSounded c ∧
      isTau (blur c) = isTau c ∧ isZeta (blur c) = isZeta c := by
  by_cases hc : c ∈ letters
  · rw [blur_of_letters hc]
    exact ⟨rfl, rfl, rfl, rfl, rfl⟩
  · have hd := isInert_blur hc
    rw [upsilons_of_inert hc, upsilons_of_inert hd, iotas_of_inert hc, iotas_of_inert hd,
      isSounded_of_inert hc, isSounded_of_inert hd, isTau_of_inert hc, isTau_of_inert hd,
      isZeta_of_inert hc, isZeta_of_inert hd]
    exact ⟨rfl, rfl, rfl, rfl, rfl⟩

theorem isVoiced_map_blur (s : List Char) :
    isVoiced (s.map blur).head? (s.map blur).tail.head? = isVoiced s.head? s.tail.head? := by
  rw [isVoiced_eq, isVoiced_eq]
  cases s with
  | nil => rfl
  | cons c s =>
    obtain ⟨-, -, hsounded, htau, -⟩ := sameRole_blur c
    rw [List.map_cons, List.head?_cons, List.tail_cons, Option.any_some, Option.any_some,
      hsounded, htau]
    cases s with
    | nil => rfl
    | cons d s =>
      obtain ⟨-, -, -, -, hzeta⟩ := sameRole_blur d
      rw [List.map_cons, List.head?_cons, Option.any_some, hzeta]
      rfl

theorem labial_map_blur (d : Char) (s : List Char) :
    labial d (s.map blur).head? (s.map blur).tail.head? = labial d s.head? s.tail.head? := by
  rw [labial, labial, isVoiced_map_blur]

theorem beginsPair_map_blur (c : Char) (s : List Char) :
    beginsPair c (s.map blur) = beginsPair c s := by
  cases s with
  | nil => rfl
  | cons d s =>
    obtain ⟨hυ, hι, -⟩ := sameRole_blur d
    change isPair c (blur d) = isPair c d
    rw [isPair, isPair, hυ, hι]

/-- **Folding the sounds is blind to the forms of sigmas.** -/
theorem foldSounds_map_blur (s : List Char) :
    foldSounds (s.map blur) = (foldSounds s).map blur := by
  induction s using foldSounds_induction with
  | nil => rfl
  | labial c d r hc hd ih =>
    rw [List.map_cons, List.map_cons, blur_of_letters (mem_letters_of_opensLabial hc),
      blur_of_letters (mem_letters_of_upsilons hd), foldSounds_labial hc hd,
      foldSounds_labial hc hd, List.map_cons, List.map_cons,
      blur_of_letters (mem_letters_of_opensLabial hc),
      blur_of_letters (labial_mem_letters hd _ _), labial_map_blur, ih]
  | epsilon c d r hc hd ih =>
    rw [List.map_cons, List.map_cons, blur_of_letters (mem_letters_of_isAlpha hc),
      blur_of_letters (mem_letters_of_iotas hd), foldSounds_epsilon hc hd,
      foldSounds_epsilon hc hd, List.map_cons, blur_of_letters (epsilonOf_mem_letters hd), ih]
  | iota c d r hc hd ih =>
    rw [List.map_cons, List.map_cons, blur_of_letters (mem_letters_of_yieldsToIota hc),
      blur_of_letters (mem_letters_of_iotas hd), foldSounds_iota hc hd, foldSounds_iota hc hd,
      List.map_cons, blur_of_letters (mem_letters_of_iotas hd), ih]
  | single c s hpair ih =>
    rw [foldSounds_cons hpair, List.map_cons, List.map_cons]
    by_cases hc : c ∈ letters
    · rw [blur_of_letters hc, blur_of_letters (foldLetter_mem_letters hc),
        foldSounds_cons ((beginsPair_map_blur c s).trans hpair), ih]
    · rw [foldSounds_cons_of_inert (isInert_blur hc), foldLetter_of_inert hc, ih]

theorem head?_map_blur {s : List Char} : (s.map blur).head? = some 'ι' ↔ s.head? = some 'ι' := by
  cases s with
  | nil => simp
  | cons c s =>
    rw [List.map_cons, List.head?_cons, List.head?_cons, Option.some_inj, Option.some_inj]
    unfold blur
    split
    · next h => subst h; decide
    · rfl

theorem prepend_map_blur_of_yields {c : Char} (hc : c = 'ε' ∨ c = 'ο') (s : List Char) :
    prepend c (s.map blur) = (prepend c s).map blur := by
  have hblur : blur c = c := by rcases hc with rfl | rfl <;> decide
  by_cases h : s.head? = some 'ι'
  · obtain ⟨r, rfl⟩ := List.head?_eq_some_iff.mp h
    rw [prepend_of_yields hc]
    exact prepend_of_yields hc _
  · rw [prepend_of_head h, prepend_of_head (fun heq => h (head?_map_blur.mp heq)), List.map_cons,
      hblur]

theorem prepend_map_blur (c : Char) (s : List Char) :
    prepend (blur c) (s.map blur) = (prepend c s).map blur := by
  by_cases h : s.head? = some 'ι'
  · by_cases hyields : c = 'ε' ∨ c = 'ο'
    · have hblur : blur c = c := by rcases hyields with rfl | rfl <;> decide
      rw [hblur, prepend_map_blur_of_yields hyields]
    · obtain ⟨r, rfl⟩ := List.head?_eq_some_iff.mp h
      rw [not_or] at hyields
      by_cases hα : c = 'α'
      · subst hα
        exact prepend_map_blur_of_yields (.inl rfl) r
      · have hne : ∀ d ∈ letters, c ≠ d → blur c ≠ d := by
          intro d hd hcd heq
          unfold blur at heq
          split at heq
          · exact absurd hd (heq ▸ by decide)
          · exact hcd heq
        rw [prepend_of_ne hα hyields.1 hyields.2, prepend_of_ne (hne _ (by decide) hα)
          (hne _ (by decide) hyields.1) (hne _ (by decide) hyields.2)]
        rfl
  · rw [prepend_of_head h, prepend_of_head (fun heq => h (head?_map_blur.mp heq)), List.map_cons]

theorem fuse_map_blur (s : List Char) : fuse (s.map blur) = (fuse s).map blur := by
  induction s with
  | nil => rfl
  | cons c s ih => rw [List.map_cons, fuse_cons, fuse_cons, ih, prepend_map_blur]

/-! ### Folding keeps the forms -/

theorem sigmas_foldSounds (s : List Char) : sigmas (foldSounds s) = sigmas s :=
  filter_inert_foldSounds (fun _ hc => isSigma_of_letters hc) s

theorem sigmas_prepend (c : Char) (s : List Char) : sigmas (prepend c s) = sigmas (c :: s) := by
  rcases prepend_cases c s with h | ⟨hc, -, h⟩ | ⟨r, rfl, rfl, h | ⟨-, h⟩⟩ <;> rw [h]
  · rw [sigmas_cons_of_not_isSigma (isSigma_of_letters (mem_letters_of_yields hc))]
  · rfl
  · rfl

theorem sigmas_fuse (s : List Char) : sigmas (fuse s) = sigmas s := by
  induction s with
  | nil => rfl
  | cons c s ih =>
    rw [fuse_cons, sigmas_prepend, sigmas, sigmas, List.filter_cons, List.filter_cons, ← sigmas,
      ← sigmas, ih]

theorem sigmas_stripAccents (s : List Char) : sigmas (stripAccents s) = sigmas s := by
  induction s with
  | nil => rfl
  | cons c s ih =>
    rw [stripAccents, List.map_cons, ← stripAccents]
    by_cases hc : c ∈ letters
    · rw [sigmas_cons_of_not_isSigma (isSigma_of_letters hc),
        sigmas_cons_of_not_isSigma (isSigma_of_letters (stripAccent_mem_letters hc)), ih]
    · rw [stripAccent_of_inert hc, sigmas, sigmas, List.filter_cons, List.filter_cons, ← sigmas,
        ← sigmas, ih]

/-! ### Lower-casing gives the same forms after folding -/

theorem case_of_letters {c : Char} (h : c ∈ letters) :
    isCased c = true ∧ isCaseIgnorable c = false ∧ c ≠ 'Σ' ∧
      sigmas (lowerChar c) = [] := by
  have hall : ∀ c ∈ letters, isCased c = true ∧ c ≠ 'Σ' ∧
      (c.toNat = 0x386 ∨ 0x388 ≤ c.toNat ∧ c.toNat ≤ 0x3ce) := by decide
  have hranges : ∀ r ∈ caseIgnorableClass.ranges,
      r.2 < 0x386 ∨ 0x3ce < r.1 ∨ r = (0x387, 0x387) := by decide +kernel
  obtain ⟨hcased, hne, hcode⟩ := hall c h
  refine ⟨hcased, ?_, hne, ?_⟩
  · rw [Bool.eq_false_iff]
    intro hignorable
    obtain ⟨r, hr, hl, hg⟩ := CharClass.contains_iff.mp hignorable
    rcases hranges r hr with hr | hr | rfl <;> omega
  · rw [lowerChar_of_mem_letters h,
      sigmas_cons_of_not_isSigma (isSigma_of_letters (lowerLetter_mem_letters h))]
    rfl

theorem casedNext_cons (c : Char) (s : List Char) :
    casedNext (c :: s) = if isCaseIgnorable c then casedNext s else isCased c := by
  unfold casedNext
  rw [List.dropWhile_cons]
  cases isCaseIgnorable c <;> rfl

theorem casedNext_cons_of_letters {c : Char} (h : c ∈ letters) (s : List Char) :
    casedNext (c :: s) = true := by
  obtain ⟨hcased, hignorable, -⟩ := case_of_letters h
  rw [casedNext_cons, hignorable, hcased]
  rfl

theorem casedNext_foldSounds (s : List Char) : casedNext (foldSounds s) = casedNext s := by
  induction s using foldSounds_induction with
  | nil => rfl
  | labial c d r hc hd ih =>
    rw [foldSounds_labial hc hd, casedNext_cons_of_letters (mem_letters_of_opensLabial hc),
      casedNext_cons_of_letters (mem_letters_of_opensLabial hc)]
  | epsilon c d r hc hd ih =>
    rw [foldSounds_epsilon hc hd, casedNext_cons_of_letters (epsilonOf_mem_letters hd),
      casedNext_cons_of_letters (mem_letters_of_isAlpha hc)]
  | iota c d r hc hd ih =>
    rw [foldSounds_iota hc hd, casedNext_cons_of_letters (mem_letters_of_iotas hd),
      casedNext_cons_of_letters (mem_letters_of_yieldsToIota hc)]
  | single c s hpair ih =>
    rw [foldSounds_cons hpair]
    by_cases hc : c ∈ letters
    · rw [casedNext_cons_of_letters hc, casedNext_cons_of_letters (foldLetter_mem_letters hc)]
    · rw [foldLetter_of_inert hc, casedNext_cons, casedNext_cons, ih]

theorem casedNext_stripAccents (s : List Char) : casedNext (stripAccents s) = casedNext s := by
  induction s with
  | nil => rfl
  | cons c s ih =>
    rw [stripAccents, List.map_cons, ← stripAccents]
    by_cases hc : c ∈ letters
    · rw [casedNext_cons_of_letters hc, casedNext_cons_of_letters (stripAccent_mem_letters hc)]
    · rw [stripAccent_of_inert hc, casedNext_cons, casedNext_cons, ih]

/-- A letter gives no sigma, and a sigma behind it has a letter in front. -/
theorem sigmas_lowercaseFrom_cons {c : Char} (h : c ∈ letters) (inWord : Bool) (s : List Char) :
    sigmas (lowercaseFrom inWord (c :: s)) = sigmas (lowercaseFrom true s) := by
  obtain ⟨hcased, hignorable, hne, hsigmas⟩ := case_of_letters h
  rw [lowercaseFrom, if_neg hne, sigmas_append, hsigmas, hignorable, hcased]
  rfl

theorem sigmas_lowercaseFrom_foldSounds (inWord : Bool) (s : List Char) :
    sigmas (lowercaseFrom inWord (foldSounds s)) = sigmas (lowercaseFrom inWord s) := by
  induction s using foldSounds_induction generalizing inWord with
  | nil => rfl
  | labial c d r hc hd ih =>
    rw [foldSounds_labial hc hd, sigmas_lowercaseFrom_cons (mem_letters_of_opensLabial hc),
      sigmas_lowercaseFrom_cons (labial_mem_letters hd _ _), ih,
      sigmas_lowercaseFrom_cons (mem_letters_of_opensLabial hc),
      sigmas_lowercaseFrom_cons (mem_letters_of_upsilons hd)]
  | epsilon c d r hc hd ih =>
    rw [foldSounds_epsilon hc hd, sigmas_lowercaseFrom_cons (epsilonOf_mem_letters hd), ih,
      sigmas_lowercaseFrom_cons (mem_letters_of_isAlpha hc),
      sigmas_lowercaseFrom_cons (mem_letters_of_iotas hd)]
  | iota c d r hc hd ih =>
    rw [foldSounds_iota hc hd, sigmas_lowercaseFrom_cons (mem_letters_of_iotas hd), ih,
      sigmas_lowercaseFrom_cons (mem_letters_of_yieldsToIota hc),
      sigmas_lowercaseFrom_cons (mem_letters_of_iotas hd)]
  | single c s hpair ih =>
    rw [foldSounds_cons hpair]
    by_cases hc : c ∈ letters
    · rw [sigmas_lowercaseFrom_cons (foldLetter_mem_letters hc), ih, sigmas_lowercaseFrom_cons hc]
    · rw [foldLetter_of_inert hc, lowercaseFrom, lowercaseFrom, sigmas_append, sigmas_append, ih,
        casedNext_foldSounds]

theorem sigmas_lowercaseFrom_stripAccents (inWord : Bool) (s : List Char) :
    sigmas (lowercaseFrom inWord (stripAccents s)) = sigmas (lowercaseFrom inWord s) := by
  induction s generalizing inWord with
  | nil => rfl
  | cons c s ih =>
    rw [stripAccents, List.map_cons, ← stripAccents]
    by_cases hc : c ∈ letters
    · rw [sigmas_lowercaseFrom_cons (stripAccent_mem_letters hc), ih,
        sigmas_lowercaseFrom_cons hc]
    · rw [stripAccent_of_inert hc, lowercaseFrom, lowercaseFrom, sigmas_append, sigmas_append, ih,
        casedNext_stripAccents]

/-- **A pass gives the sigmas the forms that lower-casing the text gives them.** -/
theorem sigmas_foldOnce (s : List Char) : sigmas (foldOnce s) = sigmas (lowercase s) := by
  rw [foldOnce, lowercase, sigmas_lowercaseFrom_stripAccents, sigmas_lowercaseFrom_foldSounds,
    lowercase]

/-! ### A last sigma after folding -/

theorem sigma_not_mem_letters : 'σ' ∉ letters := by decide

theorem ne_sigma_of_letters {c : Char} (h : c ∈ letters) : c ≠ 'σ' :=
  fun heq => sigma_not_mem_letters (heq ▸ h)

theorem foldSounds_eq_nil_iff {s : List Char} : foldSounds s = [] ↔ s = [] := by
  induction s using foldSounds_induction with
  | nil => rfl
  | labial c d r hc hd ih => rw [foldSounds_labial hc hd]; simp
  | epsilon c d r hc hd ih => rw [foldSounds_epsilon hc hd]; simp
  | iota c d r hc hd ih => rw [foldSounds_iota hc hd]; simp
  | single c s hpair ih => rw [foldSounds_cons hpair]; simp

theorem getLast?_foldSounds {s : List Char} :
    (foldSounds s).getLast? = some 'σ' ↔ s.getLast? = some 'σ' := by
  induction s using foldSounds_induction with
  | nil => rfl
  | labial c d r hc hd ih =>
    have hne := ne_sigma_of_letters (mem_letters_of_opensLabial hc)
    rw [foldSounds_labial hc hd, getLast?_cons_of_ne hne,
      getLast?_cons_of_ne (ne_sigma_of_letters (labial_mem_letters hd _ _)), ih,
      getLast?_cons_of_ne hne,
      getLast?_cons_of_ne (ne_sigma_of_letters (mem_letters_of_upsilons hd))]
  | epsilon c d r hc hd ih =>
    rw [foldSounds_epsilon hc hd,
      getLast?_cons_of_ne (ne_sigma_of_letters (epsilonOf_mem_letters hd)), ih,
      getLast?_cons_of_ne (ne_sigma_of_letters (mem_letters_of_isAlpha hc)),
      getLast?_cons_of_ne (ne_sigma_of_letters (mem_letters_of_iotas hd))]
  | iota c d r hc hd ih =>
    have hne := ne_sigma_of_letters (mem_letters_of_iotas hd)
    rw [foldSounds_iota hc hd, getLast?_cons_of_ne hne, ih,
      getLast?_cons_of_ne (ne_sigma_of_letters (mem_letters_of_yieldsToIota hc)),
      getLast?_cons_of_ne hne]
  | single c s hpair ih =>
    rw [foldSounds_cons hpair]
    by_cases hc : c ∈ letters
    · rw [getLast?_cons_of_ne (ne_sigma_of_letters (foldLetter_mem_letters hc)), ih,
        getLast?_cons_of_ne (ne_sigma_of_letters hc)]
    · rw [foldLetter_of_inert hc, getLast?_cons_eq, getLast?_cons_eq, ih, foldSounds_eq_nil_iff]

theorem getLast?_stripAccents {s : List Char} :
    (stripAccents s).getLast? = some 'σ' ↔ s.getLast? = some 'σ' := by
  induction s with
  | nil => rfl
  | cons c s ih =>
    rw [stripAccents, List.map_cons, ← stripAccents]
    by_cases hc : c ∈ letters
    · rw [getLast?_cons_of_ne (ne_sigma_of_letters (stripAccent_mem_letters hc)), ih,
        getLast?_cons_of_ne (ne_sigma_of_letters hc)]
    · rw [stripAccent_of_inert hc, getLast?_cons_eq, getLast?_cons_eq, ih, stripAccents,
        List.map_eq_nil_iff]

theorem getLast?_prepend {c : Char} {s : List Char} :
    (prepend c s).getLast? = some 'σ' ↔ (c :: s).getLast? = some 'σ' := by
  rcases prepend_cases c s with h | ⟨hc, -, h⟩ | ⟨r, rfl, rfl, h | ⟨-, h⟩⟩ <;> rw [h]
  · rw [getLast?_cons_of_ne (ne_sigma_of_letters (mem_letters_of_yields hc))]
  · rw [getLast?_cons_of_ne (by decide), getLast?_cons_of_ne (by decide),
      getLast?_cons_of_ne (by decide)]
  · rw [getLast?_cons_of_ne (by decide), getLast?_cons_of_ne (by decide)]

theorem prepend_ne_nil (c : Char) (s : List Char) : prepend c s ≠ [] := by
  rcases prepend_cases c s with h | ⟨-, hs, h⟩ | ⟨r, rfl, rfl, h | ⟨hr, h⟩⟩ <;> rw [h]
  · exact List.cons_ne_nil _ _
  · rintro rfl
    exact absurd hs (by simp)
  · exact List.cons_ne_nil _ _
  · rintro rfl
    exact absurd hr (by simp)

theorem fuse_eq_nil_iff {s : List Char} : fuse s = [] ↔ s = [] := by
  cases s with
  | nil => rfl
  | cons c s => simp [prepend_ne_nil]

theorem getLast?_fuse {s : List Char} : (fuse s).getLast? = some 'σ' ↔ s.getLast? = some 'σ' := by
  induction s with
  | nil => rfl
  | cons c s ih =>
    rw [fuse_cons, getLast?_prepend, getLast?_cons_eq, getLast?_cons_eq, ih, fuse_eq_nil_iff]

/-- **A last sigma gets its form before or after folding.** -/
theorem sigmas_finalSigma_normalize {s : List Char} (hs : ∀ c ∈ s, IsLower c) :
    sigmas (finalSigma (normalize s)) = sigmas (finalSigma s) := by
  rw [normalize_of_isLower hs]
  refine sigmas_finalSigma ?_ ?_
  · rw [sigmas_fuse, sigmas_foldSounds, sigmas_stripAccents, sigmas_foldSounds]
  · rw [getLast?_fuse, getLast?_foldSounds, getLast?_stripAccents, getLast?_foldSounds]

end Greek

end Catalog
