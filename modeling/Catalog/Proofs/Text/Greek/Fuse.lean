import Catalog.Proofs.Text.Greek.Sounds

/-!
# Where the passes end

After the first pass a text is plain: in lower case and without accents. One more pass removes the
last eta, upsilon and omega. From then on a pass does nothing but fuse vowels with an iota behind
them, each time shortening the text, until nothing is left to fuse. The end of all this has a
description of its own, read from the right, with no passes in it.

## Main definitions

* `Greek.IsPlain`, `Greek.IsSettled`: characters after the first and after the second pass
* `Greek.fuse`: a text with all vowels fused that can be

## Main results

* `Greek.isPlain_of_mem_foldOnce`, `Greek.isSettled_of_mem_foldSounds`: what a pass leaves
* `Greek.fuse_foldSounds`: a further pass does not change what is fused in the end
* `Greek.normalize_of_needsFolding`, `Greek.normalize_of_isLower`: the folded form without passes
-/

namespace Catalog.Greek

/-- A character in lower case and without an accent. -/
def IsPlain (c : Char) : Prop :=
  IsLower c ∧ stripAccent c = c

instance (c : Char) : Decidable (IsPlain c) :=
  inferInstanceAs (Decidable (_ ∧ _))

/-- A plain character that no pass replaces by another one. -/
def IsSettled (c : Char) : Prop :=
  IsPlain c ∧ c ≠ 'η' ∧ c ≠ 'υ' ∧ c ≠ 'ω'

instance (c : Char) : Decidable (IsSettled c) :=
  inferInstanceAs (Decidable (_ ∧ _))

/-! ### Plain letters -/

/-- The plain letters. -/
def plainLetters : List Char :=
  ['α', 'ε', 'η', 'ι', 'ο', 'υ', 'ω', 'γ', 'β', 'δ', 'ζ', 'λ', 'μ', 'ν', 'ρ', 'τ', 'φ']

theorem mem_plainLetters {c : Char} (hc : c ∈ letters) (h : IsPlain c) : c ∈ plainLetters := by
  have hall : ∀ c ∈ letters, lowerLetter c = c → stripAccent c = c → c ∈ plainLetters := by
    decide
  exact hall c hc ((isLower_iff_of_mem_letters hc).mp h.1) h.2

/-- A property of plain characters holds of all if it holds of the plain letters and of what is
inert. -/
theorem forall_plain {p : Char → Prop} (hletters : ∀ c ∈ plainLetters, p c)
    (hinert : ∀ c, IsInert c → p c) {c : Char} (h : IsPlain c) : p c := by
  by_cases hc : c ∈ letters
  · exact hletters c (mem_plainLetters hc h)
  · exact hinert c hc

theorem eq_iota_of_isPlain {d : Char} (h : IsPlain d) (hd : iotas.contains d = true) : d = 'ι' := by
  refine forall_plain (p := fun d => iotas.contains d = true → d = 'ι') ?_ ?_ h hd
  · rw [iotas_eq]
    decide
  · intro c hc h
    rw [iotas_of_inert hc] at h
    exact absurd h (by decide)

theorem eq_upsilon_of_isPlain {d : Char} (h : IsPlain d) (hd : upsilons.contains d = true) :
    d = 'υ' := by
  refine forall_plain (p := fun d => upsilons.contains d = true → d = 'υ') ?_ ?_ h hd
  · rw [upsilons_eq]
    decide
  · intro c hc h
    rw [upsilons_of_inert hc] at h
    exact absurd h (by decide)

theorem eq_alpha_of_isPlain {c : Char} (h : IsPlain c) (hc : isAlpha c = true) : c = 'α' := by
  simp only [isAlpha, Bool.or_eq_true, beq_iff_eq] at hc
  rcases hc with rfl | rfl
  · rfl
  · exact absurd h (by decide)

/-! ### What a pass leaves -/

/-- Without its accent a character is plain in lower case. -/
theorem isPlain_of_mem_lowerChar_stripAccent {c d : Char} (h : d ∈ lowerChar (stripAccent c)) :
    IsPlain d := by
  refine ⟨isLower_of_mem_lowerChar h, ?_⟩
  by_cases hc : c ∈ letters
  · have hall : ∀ c ∈ letters,
        stripAccent (lowerLetter (stripAccent c)) = lowerLetter (stripAccent c) := by
      decide
    rw [lowerChar_of_mem_letters (stripAccent_mem_letters hc), List.mem_singleton] at h
    exact h ▸ hall c hc
  · rw [stripAccent_of_inert hc] at h
    by_cases hohm : c = ohm
    · subst hohm
      have hall : ∀ d ∈ lowerChar ohm, stripAccent d = d := by decide
      exact hall d h
    · exact stripAccent_of_inert (isInert_of_mem_lowerChar hc hohm h)

/-- **The first pass leaves plain characters.** -/
theorem isPlain_of_mem_foldOnce {s : List Char} {d : Char} (h : d ∈ foldOnce s) : IsPlain d := by
  rcases mem_lowercaseFrom h with rfl | ⟨c, hc, hd⟩
  · decide
  · obtain ⟨b, -, rfl⟩ := List.mem_map.mp hc
    exact isPlain_of_mem_lowerChar_stripAccent hd

/-- **Folding the sounds of a plain text leaves settled characters.** -/
theorem isSettled_of_mem_foldSounds {s : List Char} (hs : ∀ c ∈ s, IsPlain c) :
    ∀ c ∈ foldSounds s, IsSettled c := by
  induction s using foldSounds_induction with
  | nil => exact fun c hc => absurd hc List.not_mem_nil
  | labial c d r hc hd ih =>
    rw [List.forall_mem_cons, List.forall_mem_cons] at hs
    obtain ⟨hfirst, hsecond, hrest⟩ := hs
    rw [foldSounds_labial hc hd, List.forall_mem_cons, List.forall_mem_cons]
    refine ⟨⟨hfirst, ?_⟩, ?_, ih hrest⟩
    · simp only [opensLabial, Bool.or_eq_true, beq_iff_eq] at hc
      rcases hc with ((rfl | rfl) | rfl) | rfl <;> decide
    · rw [eq_upsilon_of_isPlain hsecond hd]
      exact forall_labial (p := IsSettled) (by decide) _ _
  | epsilon c d r hc hd ih =>
    rw [List.forall_mem_cons, List.forall_mem_cons] at hs
    rw [foldSounds_epsilon hc hd, List.forall_mem_cons, eq_iota_of_isPlain hs.2.1 hd]
    exact ⟨by decide, ih hs.2.2⟩
  | iota c d r hc hd ih =>
    rw [List.forall_mem_cons, List.forall_mem_cons] at hs
    rw [foldSounds_iota hc hd, List.forall_mem_cons, eq_iota_of_isPlain hs.2.1 hd]
    exact ⟨by decide, ih hs.2.2⟩
  | single c s hpair ih =>
    rw [List.forall_mem_cons] at hs
    rw [foldSounds_cons hpair, List.forall_mem_cons]
    refine ⟨?_, ih hs.2⟩
    refine forall_plain (p := fun c => IsPlain c → IsSettled (foldLetter c)) ?_ ?_ hs.1 hs.1
    · decide
    · intro c hc hplain
      rw [foldLetter_of_inert hc]
      refine ⟨hplain, ?_, ?_, ?_⟩ <;> rintro rfl <;> exact absurd hc (by decide)

/-- In plain text a pass does nothing but fold the sounds. -/
theorem foldOnce_of_isPlain {s : List Char} (hs : ∀ c ∈ s, IsPlain c) :
    foldOnce s = foldSounds s := by
  have hplain : ∀ c ∈ foldSounds s, IsPlain c := fun c hc => (isSettled_of_mem_foldSounds hs c hc).1
  have hstrip : stripAccents (foldSounds s) = foldSounds s :=
    (List.map_congr_left fun c hc => (hplain c hc).2).trans (List.map_id _)
  rw [foldOnce, hstrip]
  exact lowercase_of_isLower fun c hc => (hplain c hc).1

/-! ### Fusing vowels -/

/-- Drops an epsilon or omicron in front of an iota. -/
def absorb (c : Char) (s : List Char) : List Char :=
  if (c == 'ε' || c == 'ο') && s.head? == some 'ι' then s else c :: s

/-- Puts a character in front of a fused text. Alpha with an iota is an epsilon, which in turn may
stand in front of an iota. -/
def prepend (c : Char) (s : List Char) : List Char :=
  if c == 'α' && s.head? == some 'ι' then absorb 'ε' s.tail else absorb c s

/-- A text with all vowels fused that can be. -/
def fuse (s : List Char) : List Char :=
  s.foldr prepend []

@[simp] theorem fuse_cons (c : Char) (s : List Char) : fuse (c :: s) = prepend c (fuse s) := rfl

theorem absorb_of_head {c : Char} {s : List Char} (h : s.head? ≠ some 'ι') :
    absorb c s = c :: s := by
  rw [absorb, if_neg]
  simp [h]

theorem prepend_of_head {c : Char} {s : List Char} (h : s.head? ≠ some 'ι') :
    prepend c s = c :: s := by
  rw [prepend, if_neg (by simp [h]), absorb_of_head h]

/-- What is none of the vowels that fuse stays in front. -/
theorem prepend_of_ne {c : Char} (hα : c ≠ 'α') (hε : c ≠ 'ε') (hο : c ≠ 'ο') (s : List Char) :
    prepend c s = c :: s := by
  rw [prepend, if_neg (by simp [hα]), absorb, if_neg (by simp [hε, hο])]

theorem prepend_alpha (s : List Char) : prepend 'α' ('ι' :: s) = prepend 'ε' s := rfl

theorem prepend_of_yields {c : Char} (h : c = 'ε' ∨ c = 'ο') (s : List Char) :
    prepend c ('ι' :: s) = 'ι' :: s := by
  rcases h with rfl | rfl <;> rfl

theorem mem_letters_of_yields {c : Char} (h : c = 'ε' ∨ c = 'ο') : c ∈ letters := by
  rcases h with rfl | rfl <;> decide

/-- What becomes of a character in front of a fused text: it stays, it is dropped in front of an
iota, or it is an alpha and an iota is dropped with it, for an epsilon or for nothing. -/
theorem prepend_cases (c : Char) (s : List Char) :
    prepend c s = c :: s ∨ ((c = 'ε' ∨ c = 'ο') ∧ s.head? = some 'ι' ∧ prepend c s = s) ∨
      ∃ r, c = 'α' ∧ s = 'ι' :: r ∧
        (prepend c s = 'ε' :: r ∨ r.head? = some 'ι' ∧ prepend c s = r) := by
  by_cases h : s.head? = some 'ι'
  · obtain ⟨r, rfl⟩ := List.head?_eq_some_iff.mp h
    by_cases hyields : c = 'ε' ∨ c = 'ο'
    · exact .inr (.inl ⟨hyields, rfl, prepend_of_yields hyields r⟩)
    · by_cases hα : c = 'α'
      · refine .inr (.inr ⟨r, hα, rfl, ?_⟩)
        rw [hα, prepend_alpha]
        by_cases hr : r.head? = some 'ι'
        · obtain ⟨q, rfl⟩ := List.head?_eq_some_iff.mp hr
          exact .inr ⟨rfl, prepend_of_yields (.inl rfl) q⟩
        · exact .inl (prepend_of_head hr)
      · rw [not_or] at hyields
        exact .inl (prepend_of_ne hα hyields.1 hyields.2 _)
  · exact .inl (prepend_of_head h)

theorem eq_or_of_yieldsToIota {c : Char} (hs : IsSettled c) (h : yieldsToIota c = true) :
    c = 'ε' ∨ c = 'ο' := by
  simp only [yieldsToIota, Bool.or_eq_true, beq_iff_eq] at h
  rcases h with ((((rfl | rfl) | rfl) | rfl) | rfl) | rfl
  · exact .inl rfl
  · exact absurd hs (by decide)
  · exact .inr rfl
  · exact absurd hs (by decide)
  · exact absurd hs (by decide)
  · exact absurd hs (by decide)

theorem foldLetter_of_isSettled {c : Char} (h : IsSettled c) : foldLetter c = c := by
  refine forall_plain (p := fun c => IsSettled c → foldLetter c = c) ?_ ?_ h.1 h
  · decide
  · exact fun c hc _ => foldLetter_of_inert hc

theorem not_upsilons_of_isSettled {d : Char} (h : IsSettled d) : ¬ upsilons.contains d = true := by
  intro hd
  exact h.2.2.1 (eq_upsilon_of_isPlain h.1 hd)

/-- **A further pass does not change what is fused in the end.** -/
theorem fuse_foldSounds {s : List Char} (hs : ∀ c ∈ s, IsSettled c) :
    fuse (foldSounds s) = fuse s := by
  induction s using foldSounds_induction with
  | nil => rfl
  | labial c d r hc hd ih => exact absurd hd (not_upsilons_of_isSettled (hs d (by simp)))
  | epsilon c d r hc hd ih =>
    rw [List.forall_mem_cons, List.forall_mem_cons] at hs
    rw [foldSounds_epsilon hc hd, eq_alpha_of_isPlain hs.1.1 hc, eq_iota_of_isPlain hs.2.1.1 hd,
      fuse_cons, ih hs.2.2, fuse_cons, fuse_cons,
      prepend_of_ne (c := 'ι') (by decide) (by decide) (by decide), prepend_alpha]
    rfl
  | iota c d r hc hd ih =>
    rw [List.forall_mem_cons, List.forall_mem_cons] at hs
    rw [foldSounds_iota hc hd, eq_iota_of_isPlain hs.2.1.1 hd, fuse_cons, ih hs.2.2, fuse_cons,
      fuse_cons, prepend_of_ne (c := 'ι') (by decide) (by decide) (by decide),
      prepend_of_yields (eq_or_of_yieldsToIota hs.1 hc)]
  | single c s hpair ih =>
    rw [List.forall_mem_cons] at hs
    rw [foldSounds_cons hpair, foldLetter_of_isSettled hs.1, fuse_cons, ih hs.2, fuse_cons]

/-- A pass over a settled text shortens it, unless there is nothing to fuse. -/
theorem foldSounds_eq_or_length_lt {s : List Char} (hs : ∀ c ∈ s, IsSettled c) :
    foldSounds s = s ∧ fuse s = s ∨ (foldSounds s).length < s.length := by
  induction s using foldSounds_induction with
  | nil => exact .inl ⟨rfl, rfl⟩
  | labial c d r hc hd ih => exact absurd hd (not_upsilons_of_isSettled (hs d (by simp)))
  | epsilon c d r hc hd ih =>
    have := length_foldSounds_le r
    rw [foldSounds_epsilon hc hd]
    exact .inr (by simp only [List.length_cons]; omega)
  | iota c d r hc hd ih =>
    have := length_foldSounds_le r
    rw [foldSounds_iota hc hd]
    exact .inr (by simp only [List.length_cons]; omega)
  | single c s hpair ih =>
    rw [List.forall_mem_cons] at hs
    rw [foldSounds_cons hpair, foldLetter_of_isSettled hs.1, fuse_cons]
    rcases ih hs.2 with ⟨hfold, hfuse⟩ | hlt
    · refine .inl ⟨by rw [hfold], ?_⟩
      rw [hfuse]
      by_cases hhead : s.head? = some 'ι'
      · -- The character is none that fuses, or it would begin a pair.
        have hnot : isPair c 'ι' = false := by
          rw [beginsPair, hhead] at hpair
          exact hpair
        refine prepend_of_ne ?_ ?_ ?_ s <;> rintro rfl <;> exact absurd hnot (by decide)
      · exact prepend_of_head hhead
    · exact .inr (by simpa using hlt)

/-! ### The passes together -/

/-- The passes over a settled text end in the fused text. -/
theorem settle_of_isSettled {n : Nat} {s : List Char} (hs : ∀ c ∈ s, IsSettled c)
    (hn : s.length < n) : settle foldOnce n s = fuse s := by
  induction n generalizing s with
  | zero => exact absurd hn (Nat.not_lt_zero _)
  | succ n ih =>
    have hplain : ∀ c ∈ s, IsPlain c := fun c hc => (hs c hc).1
    rw [settle, foldOnce_of_isPlain hplain]
    rcases foldSounds_eq_or_length_lt hs with ⟨hfold, hfuse⟩ | hlt
    · simp only [hfold, if_true, hfuse]
    · have hne : foldSounds s ≠ s := fun heq => by rw [heq] at hlt; exact absurd hlt (lt_irrefl _)
      simp only [if_neg hne]
      rw [ih (isSettled_of_mem_foldSounds hplain) (by omega), fuse_foldSounds hs]

/-- The passes over a plain text end in the fused text of the second pass. -/
theorem settle_of_isPlain {n : Nat} {s : List Char} (hs : ∀ c ∈ s, IsPlain c)
    (hn : s.length + 1 < n) : settle foldOnce n s = fuse (foldSounds s) := by
  obtain ⟨n, rfl⟩ : ∃ m, n = m + 1 := ⟨n - 1, by omega⟩
  have hsettled := isSettled_of_mem_foldSounds hs
  rw [settle, foldOnce_of_isPlain hs]
  by_cases heq : foldSounds s = s
  · rw [heq] at hsettled
    simp only [heq, if_true]
    rcases foldSounds_eq_or_length_lt hsettled with ⟨-, hfuse⟩ | hlt
    · exact hfuse.symm
    · rw [heq] at hlt
      exact absurd hlt (lt_irrefl _)
  · have hlength := length_foldSounds_le s
    simp only [if_neg heq]
    exact settle_of_isSettled hsettled (by omega)

theorem length_foldOnce_le (s : List Char) : (foldOnce s).length ≤ 2 * s.length := by
  have hlower := length_lowercase_le (stripAccents (foldSounds s))
  have hfold := length_foldSounds_le s
  rw [stripAccents, List.length_map] at hlower
  rw [foldOnce, stripAccents]
  omega

/-- **The folded form of a text that calls for folding**, without passes. -/
theorem normalize_of_needsFolding {s : List Char} (h : needsFolding s = true) :
    normalize s = fuse (foldSounds (foldOnce s)) := by
  have hlength := length_foldOnce_le s
  rw [normalize, if_pos h]
  exact settle_of_isPlain (fun c hc => isPlain_of_mem_foldOnce hc) (by unfold passBound; omega)

/-! ### What folding keeps -/

theorem forall_fuse {p : Char → Prop} (hε : p 'ε') {s : List Char} (hs : ∀ c ∈ s, p c) :
    ∀ c ∈ fuse s, p c := by
  induction s with
  | nil => exact hs
  | cons c s ih =>
    rw [List.forall_mem_cons] at hs
    have hfuse := ih hs.2
    rw [fuse_cons]
    rcases prepend_cases c (fuse s) with h | ⟨-, -, h⟩ | ⟨r, -, heq, h | ⟨-, h⟩⟩ <;> rw [h]
    · exact List.forall_mem_cons.mpr ⟨hs.1, hfuse⟩
    · exact hfuse
    · rw [heq, List.forall_mem_cons] at hfuse
      exact List.forall_mem_cons.mpr ⟨hε, hfuse.2⟩
    · rw [heq, List.forall_mem_cons] at hfuse
      exact hfuse.2

theorem mem_prepend_of_inert {c d : Char} {s : List Char} (hd : IsInert d) (h : d ∈ c :: s) :
    d ∈ prepend c s := by
  have hne : ∀ {e : Char}, e ∈ letters → d ≠ e := fun he heq => hd (heq ▸ he)
  rcases prepend_cases c s with heq | ⟨hc, -, heq⟩ | ⟨r, rfl, rfl, heq | ⟨-, heq⟩⟩ <;> rw [heq]
  · exact h
  · exact (List.mem_cons.mp h).resolve_left (hne (mem_letters_of_yields hc))
  · have h := (List.mem_cons.mp h).resolve_left (hne (by decide))
    exact List.mem_cons_of_mem _ ((List.mem_cons.mp h).resolve_left (hne (by decide)))
  · have h := (List.mem_cons.mp h).resolve_left (hne (by decide))
    exact (List.mem_cons.mp h).resolve_left (hne (by decide))

theorem mem_fuse_of_inert {d : Char} (hd : IsInert d) {s : List Char} (h : d ∈ s) :
    d ∈ fuse s := by
  induction s with
  | nil => exact h
  | cons c s ih =>
    refine mem_prepend_of_inert hd ?_
    exact List.mem_cons.mpr ((List.mem_cons.mp h).imp_right ih)

theorem length_prepend_le (c : Char) (s : List Char) : (prepend c s).length ≤ s.length + 1 := by
  rcases prepend_cases c s with h | ⟨-, -, h⟩ | ⟨r, -, rfl, h | ⟨-, h⟩⟩ <;> rw [h]
  · exact le_rfl
  · exact Nat.le_succ _
  · exact Nat.le_succ _
  · exact (Nat.le_succ _).trans (Nat.le_succ _)

theorem length_fuse_le (s : List Char) : (fuse s).length ≤ s.length := by
  induction s with
  | nil => exact le_rfl
  | cons c s ih =>
    have := length_prepend_le c (fuse s)
    rw [fuse_cons, List.length_cons]
    omega

theorem length_normalize_le (s : List Char) : (normalize s).length ≤ 2 * s.length := by
  by_cases h : needsFolding s = true
  · have hfuse := length_fuse_le (foldSounds (foldOnce s))
    have hfold := length_foldSounds_le (foldOnce s)
    have honce := length_foldOnce_le s
    rw [normalize_of_needsFolding h]
    omega
  · rw [normalize, if_neg h]
    omega

/-- **What holds of the letters, of a final sigma and of the characters of a text, and is kept by
lower-casing, holds of the folded text.** -/
theorem forall_normalize {p : Char → Prop} (hletters : ∀ c ∈ letters, p c) (hsigma : p 'ς')
    (hlower : ∀ c, p c → ∀ d ∈ lowerChar c, p d) {s : List Char} (hs : ∀ c ∈ s, p c) :
    ∀ c ∈ normalize s, p c := by
  by_cases h : needsFolding s = true
  · rw [normalize_of_needsFolding h]
    refine forall_fuse (hletters _ (by decide)) (forall_foldSounds_of_letters hletters ?_)
    intro d hd
    rcases mem_lowercaseFrom hd with rfl | ⟨c, hc, hd⟩
    · exact hsigma
    · obtain ⟨b, hb, rfl⟩ := List.mem_map.mp hc
      refine hlower _ ?_ d hd
      by_cases hletter : b ∈ letters
      · exact hletters _ (stripAccent_mem_letters hletter)
      · rw [stripAccent_of_inert hletter]
        exact forall_foldSounds_of_letters hletters hs b hb
  · rw [normalize, if_neg h]
    exact hs

/-! ### The folded form of a text in lower case -/

theorem isLower_stripAccent {c : Char} (h : IsLower c) : IsLower (stripAccent c) := by
  by_cases hmem : c ∈ letters
  · have hall : ∀ c ∈ letters, lowerLetter c = c → lowerLetter (stripAccent c) = stripAccent c := by
      decide
    rw [isLower_iff_of_mem_letters (stripAccent_mem_letters hmem)]
    exact hall c hmem ((isLower_iff_of_mem_letters hmem).mp h)
  · rwa [stripAccent_of_inert hmem]

theorem foldOnce_of_isLower {s : List Char} (hs : ∀ c ∈ s, IsLower c) :
    foldOnce s = stripAccents (foldSounds s) := by
  refine lowercase_of_isLower fun c hc => ?_
  obtain ⟨b, hb, rfl⟩ := List.mem_map.mp hc
  exact isLower_stripAccent (isLower_of_mem_foldSounds hs b hb)

/-- Text without Greek is fused as it stands. -/
theorem fuse_of_inert {s : List Char} (hs : ∀ c ∈ s, IsInert c) : fuse s = s := by
  induction s with
  | nil => rfl
  | cons c s ih =>
    rw [List.forall_mem_cons] at hs
    rw [fuse_cons, ih hs.2]
    refine prepend_of_ne ?_ ?_ ?_ s <;> rintro rfl <;> exact absurd hs.1 (by decide)

theorem normalize_of_not_needsFolding {s : List Char} (h : needsFolding s = false) :
    normalize s = s :=
  if_neg (Bool.eq_false_iff.mp h)

/-- A text that does not call for folding has code points below the Greek letters and no capitals.
-/
theorem bounds_of_mem_of_not_needsFolding {s : List Char} (h : needsFolding s = false) {c : Char}
    (hc : c ∈ s) : c.toNat < 0x386 ∧ isUppercase c = false := by
  have hfirst := List.any_eq_false.mp h c hc
  rw [Bool.or_eq_true, decide_eq_true_eq, not_or, firstCode] at hfirst
  exact ⟨by omega, Bool.eq_false_iff.mpr hfirst.2⟩

theorem isInert_of_not_needsFolding {s : List Char} (h : needsFolding s = false) :
    ∀ c ∈ s, IsInert c := fun _ hc =>
  isInert_of_toNat (.inl (bounds_of_mem_of_not_needsFolding h hc).1)

/-- **The folded form of a text in lower case**, without passes. -/
theorem normalize_of_isLower {s : List Char} (hs : ∀ c ∈ s, IsLower c) :
    normalize s = fuse (foldSounds (stripAccents (foldSounds s))) := by
  by_cases h : needsFolding s = true
  · rw [normalize_of_needsFolding h, foldOnce_of_isLower hs]
  · have hinert := isInert_of_not_needsFolding (Bool.eq_false_iff.mpr h)
    rw [normalize, if_neg h, foldSounds_of_inert hinert, stripAccents_of_inert hinert,
      foldSounds_of_inert hinert, fuse_of_inert hinert]

theorem normalize_eq {s : List Char} (h : needsFolding s = true ∨ ∀ c ∈ s, IsLower c) :
    normalize s = fuse (foldSounds (foldOnce s)) := by
  rcases h with h | h
  · exact normalize_of_needsFolding h
  · rw [normalize_of_isLower h, foldOnce_of_isLower h]

end Catalog.Greek
