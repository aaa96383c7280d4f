import Catalog.Proofs.Text.Greek.Letters

/-!
# What one pass makes of sounds

`Greek.foldSounds` reads a text from the left and takes one or two characters at a time. What it
does is said once for each kind of pair and once for a character that begins none, with an induction
that has a case for each.

## Main definitions

* `Greek.beginsPair`: whether a character begins a pair with what follows

## Main results

* `Greek.foldSounds_labial`, `foldSounds_epsilon`, `foldSounds_iota`, `foldSounds_cons`: one step
* `Greek.foldSounds_induction`: induction along the steps
* `Greek.forall_foldSounds`: what the steps keep holds of the whole
* `Greek.foldSounds_append_of_inert`: inert characters in front are copied
-/

namespace Catalog.Greek

/-- Whether a character and the one after it are a pair. -/
def isPair (c d : Char) : Bool :=
  opensLabial c && upsilons.contains d || isAlpha c && iotas.contains d ||
    yieldsToIota c && iotas.contains d

/-- Whether a character begins a pair with what follows. -/
def beginsPair (c : Char) (s : List Char) : Bool :=
  s.head?.any (isPair c)

theorem upsilons_of_iotas {d : Char} (h : iotas.contains d = true) :
    upsilons.contains d = false := by
  have hall : ∀ d ∈ iotas, upsilons.contains d = false := by
    rw [iotas_eq, upsilons_eq]
    decide
  exact hall d (List.contains_iff_mem.mp h)

theorem isAlpha_of_yieldsToIota {c : Char} (h : yieldsToIota c = true) : isAlpha c = false := by
  simp only [yieldsToIota, Bool.or_eq_true, beq_iff_eq] at h
  rcases h with ((((rfl | rfl) | rfl) | rfl) | rfl) | rfl <;> decide

theorem opensLabial_of_isAlpha {c : Char} (h : isAlpha c = true) : opensLabial c = true := by
  simp only [isAlpha, Bool.or_eq_true, beq_iff_eq] at h
  rcases h with rfl | rfl <;> decide

/-! ### Steps -/

@[simp] theorem foldSounds_nil : foldSounds [] = [] := rfl

/-- Alpha or epsilon with an upsilon: the upsilon becomes a consonant. -/
theorem foldSounds_labial {c d : Char} (hc : opensLabial c = true)
    (hd : upsilons.contains d = true) (r : List Char) :
    foldSounds (c :: d :: r) = c :: labial d r.head? r.tail.head? :: foldSounds r := by
  rw [foldSounds, hc, hd]
  rfl

/-- Alpha with an iota: the two become an epsilon. -/
theorem foldSounds_epsilon {c d : Char} (hc : isAlpha c = true) (hd : iotas.contains d = true)
    (r : List Char) : foldSounds (c :: d :: r) = epsilonOf d :: foldSounds r := by
  rw [foldSounds, upsilons_of_iotas hd, hc, hd, Bool.and_false]
  rfl

/-- Epsilon, omicron or upsilon with an iota: the iota stays. -/
theorem foldSounds_iota {c d : Char} (hc : yieldsToIota c = true) (hd : iotas.contains d = true)
    (r : List Char) : foldSounds (c :: d :: r) = d :: foldSounds r := by
  rw [foldSounds, upsilons_of_iotas hd, isAlpha_of_yieldsToIota hc, hc, hd, Bool.and_false]
  rfl

/-- What begins no pair is rewritten on its own. -/
theorem foldSounds_cons {c : Char} {s : List Char} (h : beginsPair c s = false) :
    foldSounds (c :: s) = foldLetter c :: foldSounds s := by
  cases s with
  | nil => rfl
  | cons d r =>
    have h : isPair c d = false := h
    simp only [isPair, Bool.or_eq_false_iff] at h
    obtain ⟨⟨h₁, h₂⟩, h₃⟩ := h
    rw [foldSounds, h₁, h₂, h₃]
    rfl

/-- Induction along the steps. -/
@[elab_as_elim]
theorem foldSounds_induction {motive : List Char → Prop} (nil : motive [])
    (labial : ∀ c d r, opensLabial c = true → upsilons.contains d = true → motive r →
      motive (c :: d :: r))
    (epsilon : ∀ c d r, isAlpha c = true → iotas.contains d = true → motive r →
      motive (c :: d :: r))
    (iota : ∀ c d r, yieldsToIota c = true → iotas.contains d = true → motive r →
      motive (c :: d :: r))
    (single : ∀ c s, beginsPair c s = false → motive s → motive (c :: s)) (s : List Char) :
    motive s := by
  induction s using foldSounds.induct with
  | case1 => exact nil
  | case2 c => exact single c [] rfl nil
  | case3 c d r h ih =>
    obtain ⟨hc, hd⟩ := Bool.and_eq_true_iff.mp h
    exact labial c d r hc hd ih
  | case4 c d r _ h ih =>
    obtain ⟨hc, hd⟩ := Bool.and_eq_true_iff.mp h
    exact epsilon c d r hc hd ih
  | case5 c d r _ _ h ih =>
    obtain ⟨hc, hd⟩ := Bool.and_eq_true_iff.mp h
    exact iota c d r hc hd ih
  | case6 c d r h₁ h₂ h₃ ih =>
    refine single c (d :: r) ?_ ih
    change isPair c d = false
    rw [isPair, Bool.eq_false_iff.mpr h₁, Bool.eq_false_iff.mpr h₂, Bool.eq_false_iff.mpr h₃]
    rfl

/-! ### What the steps keep -/

theorem labial_eq_or (d : Char) (next after : Option Char) :
    labial d next after = labial d none none ∨ labial d next after = labial d (some 'α') none := by
  have hvoiced : isVoiced (some 'α') none = true := by rw [isVoiced_eq]; decide
  unfold labial
  rw [hvoiced]
  cases isVoiced next after
  · exact .inl rfl
  · exact .inr rfl

/-- What holds of the two sounds of an upsilon behind a vowel holds of the one that it has. -/
theorem forall_labial {p : Char → Prop} {d : Char}
    (h : p (labial d none none) ∧ p (labial d (some 'α') none)) (next after : Option Char) :
    p (labial d next after) := by
  rcases labial_eq_or d next after with heq | heq <;> rw [heq]
  · exact h.1
  · exact h.2

/-- What holds of the characters of a text and is kept by the steps holds of the characters of the
folded text. -/
theorem forall_foldSounds {p : Char → Prop} (hletter : ∀ c, p c → p (foldLetter c))
    (hlabial : ∀ d ∈ upsilons, p d → p (labial d none none) ∧ p (labial d (some 'α') none))
    (hepsilon : ∀ d ∈ iotas, p d → p (epsilonOf d)) {s : List Char} (hs : ∀ c ∈ s, p c) :
    ∀ c ∈ foldSounds s, p c := by
  induction s using foldSounds_induction with
  | nil => exact hs
  | labial c d r hc hd ih =>
    rw [List.forall_mem_cons, List.forall_mem_cons] at hs
    obtain ⟨hfirst, hsecond, hrest⟩ := hs
    rw [foldSounds_labial hc hd, List.forall_mem_cons, List.forall_mem_cons]
    exact ⟨hfirst, forall_labial (hlabial d (List.contains_iff_mem.mp hd) hsecond) _ _, ih hrest⟩
  | epsilon c d r hc hd ih =>
    rw [List.forall_mem_cons, List.forall_mem_cons] at hs
    rw [foldSounds_epsilon hc hd, List.forall_mem_cons]
    exact ⟨hepsilon d (List.contains_iff_mem.mp hd) hs.2.1, ih hs.2.2⟩
  | iota c d r hc hd ih =>
    rw [List.forall_mem_cons, List.forall_mem_cons] at hs
    rw [foldSounds_iota hc hd, List.forall_mem_cons]
    exact hs.2.imp_right ih
  | single c s hpair ih =>
    rw [List.forall_mem_cons] at hs
    rw [foldSounds_cons hpair, List.forall_mem_cons]
    exact hs.imp (hletter c) ih

theorem labial_mem_letters {d : Char} (hd : upsilons.contains d = true) (next after : Option Char) :
    labial d next after ∈ letters := by
  have hall : ∀ d ∈ upsilons,
      labial d none none ∈ letters ∧ labial d (some 'α') none ∈ letters := by
    rw [upsilons_eq]
    decide
  exact forall_labial (hall d (List.contains_iff_mem.mp hd)) next after

theorem epsilonOf_mem_letters {d : Char} (hd : iotas.contains d = true) :
    epsilonOf d ∈ letters := by
  have hall : ∀ d ∈ iotas, epsilonOf d ∈ letters := by
    rw [iotas_eq]
    decide
  exact hall d (List.contains_iff_mem.mp hd)

theorem foldLetter_mem_letters {c : Char} (hc : c ∈ letters) : foldLetter c ∈ letters := by
  have hall : ∀ c ∈ letters, foldLetter c ∈ letters := by decide
  exact hall c hc

theorem stripAccent_mem_letters {c : Char} (hc : c ∈ letters) : stripAccent c ∈ letters := by
  have hall : ∀ c ∈ letters, stripAccent c ∈ letters := by decide
  exact hall c hc

/-- What holds of the letters and of the characters of a text holds of those of the folded text. -/
theorem forall_foldSounds_of_letters {p : Char → Prop} (hp : ∀ c ∈ letters, p c) {s : List Char}
    (hs : ∀ c ∈ s, p c) : ∀ c ∈ foldSounds s, p c := by
  refine forall_foldSounds ?_ ?_ ?_ hs
  · intro c hc
    by_cases hmem : c ∈ letters
    · exact hp _ (foldLetter_mem_letters hmem)
    · rwa [foldLetter_of_inert hmem]
  · intro d hd _
    have hd := List.contains_iff_mem.mpr hd
    exact ⟨hp _ (labial_mem_letters hd _ _), hp _ (labial_mem_letters hd _ _)⟩
  · intro d hd _
    exact hp _ (epsilonOf_mem_letters (List.contains_iff_mem.mpr hd))

/-- Folding the sounds of a text in lower case leaves lower case. -/
theorem isLower_of_mem_foldSounds {s : List Char} (hs : ∀ c ∈ s, IsLower c) :
    ∀ c ∈ foldSounds s, IsLower c := by
  refine forall_foldSounds ?_ ?_ ?_ hs
  · intro c hc
    by_cases hmem : c ∈ letters
    · have hall : ∀ c ∈ letters, lowerLetter c = c → lowerLetter (foldLetter c) = foldLetter c := by
        decide
      rw [isLower_iff_of_mem_letters (foldLetter_mem_letters hmem)]
      exact hall c hmem ((isLower_iff_of_mem_letters hmem).mp hc)
    · rwa [foldLetter_of_inert hmem]
  · rw [upsilons_eq]
    decide
  · rw [iotas_eq]
    decide

theorem length_foldSounds_le (s : List Char) : (foldSounds s).length ≤ s.length := by
  induction s using foldSounds_induction with
  | nil => exact le_rfl
  | labial c d r hc hd ih => rw [foldSounds_labial hc hd]; simpa using ih
  | epsilon c d r hc hd ih => rw [foldSounds_epsilon hc hd]; simp only [List.length_cons]; omega
  | iota c d r hc hd ih => rw [foldSounds_iota hc hd]; simp only [List.length_cons]; omega
  | single c s hpair ih => rw [foldSounds_cons hpair]; simpa using ih

/-! ### Letters of pairs -/

theorem mem_letters_of_upsilons {d : Char} (h : upsilons.contains d = true) : d ∈ letters := by
  by_contra hinert
  rw [upsilons_of_inert hinert] at h
  exact absurd h (by decide)

theorem mem_letters_of_iotas {d : Char} (h : iotas.contains d = true) : d ∈ letters := by
  by_contra hinert
  rw [iotas_of_inert hinert] at h
  exact absurd h (by decide)

theorem mem_letters_of_opensLabial {c : Char} (h : opensLabial c = true) : c ∈ letters := by
  by_contra hinert
  rw [opensLabial_of_inert hinert] at h
  exact absurd h (by decide)

theorem mem_letters_of_isAlpha {c : Char} (h : isAlpha c = true) : c ∈ letters :=
  mem_letters_of_opensLabial (opensLabial_of_isAlpha h)

theorem mem_letters_of_yieldsToIota {c : Char} (h : yieldsToIota c = true) : c ∈ letters := by
  by_contra hinert
  rw [yieldsToIota_of_inert hinert] at h
  exact absurd h (by decide)

/-! ### Inert characters -/

/-- What is none of the vowels in front of a pair begins none. -/
theorem beginsPair_of_not_first {c : Char} (hlabial : opensLabial c = false)
    (hyields : yieldsToIota c = false) (s : List Char) : beginsPair c s = false := by
  have hα : isAlpha c = false := by
    rw [Bool.eq_false_iff]
    intro h
    rw [opensLabial_of_isAlpha h] at hlabial
    exact absurd hlabial (by decide)
  cases s with
  | nil => rfl
  | cons d r =>
    change isPair c d = false
    rw [isPair, hlabial, hα, hyields]
    rfl

theorem beginsPair_of_inert {c : Char} (h : IsInert c) (s : List Char) :
    beginsPair c s = false :=
  beginsPair_of_not_first (opensLabial_of_inert h) (yieldsToIota_of_inert h) s

theorem foldSounds_cons_of_inert {c : Char} (h : IsInert c) (s : List Char) :
    foldSounds (c :: s) = c :: foldSounds s := by
  rw [foldSounds_cons (beginsPair_of_inert h s), foldLetter_of_inert h]

/-- Inert characters in front of a text are copied. -/
theorem foldSounds_append_of_inert {a : List Char} (ha : ∀ c ∈ a, IsInert c) (s : List Char) :
    foldSounds (a ++ s) = a ++ foldSounds s := by
  induction a with
  | nil => rfl
  | cons c a ih =>
    rw [List.forall_mem_cons] at ha
    rw [List.cons_append, foldSounds_cons_of_inert ha.1, ih ha.2, List.cons_append]

theorem foldSounds_of_inert {s : List Char} (hs : ∀ c ∈ s, IsInert c) : foldSounds s = s := by
  simpa using foldSounds_append_of_inert hs []

/-- The inert characters of a text are those of the folded text, in order. -/
theorem filter_inert_foldSounds {p : Char → Bool} (hp : ∀ c ∈ letters, p c = false)
    (s : List Char) : (foldSounds s).filter p = s.filter p := by
  induction s using foldSounds_induction with
  | nil => rfl
  | labial c d r hc hd ih =>
    rw [foldSounds_labial hc hd, List.filter_cons_of_neg, List.filter_cons_of_neg,
      List.filter_cons_of_neg, List.filter_cons_of_neg, ih]
    · simpa using hp d (mem_letters_of_upsilons hd)
    · simpa using hp c (mem_letters_of_opensLabial hc)
    · simpa using hp _ (labial_mem_letters hd _ _)
    · simpa using hp c (mem_letters_of_opensLabial hc)
  | epsilon c d r hc hd ih =>
    rw [foldSounds_epsilon hc hd, List.filter_cons_of_neg, List.filter_cons_of_neg,
      List.filter_cons_of_neg, ih]
    · simpa using hp d (mem_letters_of_iotas hd)
    · simpa using hp c (mem_letters_of_isAlpha hc)
    · simpa using hp _ (epsilonOf_mem_letters hd)
  | iota c d r hc hd ih =>
    rw [foldSounds_iota hc hd, List.filter_cons_of_neg, List.filter_cons_of_neg,
      List.filter_cons_of_neg, ih]
    · simpa using hp d (mem_letters_of_iotas hd)
    · simpa using hp c (mem_letters_of_yieldsToIota hc)
    · simpa using hp d (mem_letters_of_iotas hd)
  | single c s hpair ih =>
    rw [foldSounds_cons hpair]
    by_cases hc : c ∈ letters
    · rw [List.filter_cons_of_neg, List.filter_cons_of_neg, ih]
      · simpa using hp c hc
      · simpa using hp _ (foldLetter_mem_letters hc)
    · rw [foldLetter_of_inert hc, List.filter_cons, List.filter_cons, ih]

/-- An inert character of a text is one of the folded text. -/
theorem mem_foldSounds_of_inert {c : Char} (hinert : IsInert c) {s : List Char} (h : c ∈ s) :
    c ∈ foldSounds s := by
  have hfilter := filter_inert_foldSounds (p := fun d => decide (IsInert d))
    (fun d hd => decide_eq_false (not_not.mpr hd)) s
  have hmem : c ∈ s.filter fun d => decide (IsInert d) :=
    List.mem_filter.mpr ⟨h, decide_eq_true hinert⟩
  rw [← hfilter] at hmem
  exact (List.mem_filter.mp hmem).1

end Catalog.Greek
