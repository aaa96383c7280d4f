import Catalog.Proofs.Text.Greek.Case

/-!
# Texts letter by letter

The passes over a text can be read off its letters, one after the other. An upsilon behind an alpha
or an epsilon is a consonant, one in front of an iota is mute, and every other letter has a sound of
its own; the text so heard is then fused. What stands in front of an upsilon has to be remembered
with its accent, and an upsilon with a diaeresis counts only in the second pass, when the accents
are gone and the letter behind it may have become an iota.

## Main definitions

* `Greek.Before`: what is remembered of the letters in front
* `Greek.soundIn`: the sound of a letter where it stands, and `Greek.heard`: that of a text
* `Greek.firstPass`: a text after the first pass, but for the forms of its sigmas
* `Greek.IsHeard`: the further passes give what is heard of a text

## Main results

* `Greek.fuse_foldSounds_firstPass`: the further passes give the heard text, fused
-/

namespace Catalog.Greek

/-- Upsilons with a diaeresis. -/
def splitUpsilons : List Char :=
  ['ϋ', 'ΰ', 'Ϋ']

/-- What stands in front of a letter, as far as an upsilon is concerned. -/
inductive Before where
  /-- A plain alpha. -/
  | alpha
  /-- A plain epsilon. -/
  | epsilon
  /-- An alpha or epsilon with an accent. -/
  | accented
  /-- An iota that is a pair with a plain alpha. -/
  | paired
  | other
  deriving DecidableEq, Repr

/-- What stands in front of the letter behind a letter. -/
def Before.next (b : Before) (c : Char) : Before :=
  if isAlpha c then .alpha
  else if opensLabial c then .epsilon
  else if opensLabial (stripAccent c) then .accented
  else if b = .alpha ∧ iotas.contains c = true then .paired
  else .other

/-- What stands in front leaves an upsilon a vowel. -/
def Before.IsFree (b : Before) : Prop :=
  b = .paired ∨ b = .other

/-- The sound of a letter on its own. -/
def sound (c : Char) : List Char :=
  (lowerChar (stripAccent (foldLetter c))).map foldLetter

/-- Whether a text begins with an iota, or with what the first pass makes one of. -/
def beginsIota : List Char → Bool
  | [] => false
  | c :: r =>
    sound c == ['ι'] && !splitUpsilons.contains c || yieldsToIota c && r.head?.any iotas.contains

/-- The consonant that an upsilon sounds like. -/
def labialSound (isVoiced : Bool) : Char :=
  if isVoiced then 'β' else 'φ'

/-- The sound of a letter between what stands in front of it and what follows it. -/
def soundIn (b : Before) (c : Char) (r : List Char) : List Char :=
  if splitUpsilons.contains c then
    if b = .other then (if beginsIota r then [] else ['ι'])
    else [labialSound (isVoiced r.head? r.tail.head? || r.head? == some ohm)]
  else if upsilons.contains c then
    if b = .alpha ∨ b = .epsilon then [labialSound (isVoiced r.head? r.tail.head?)]
    else if yieldsToIota c && r.head?.any iotas.contains then [] else ['ι']
  else sound c

/-- The sounds of a text behind what is remembered of the letters in front of it. -/
def heardFrom (b : Before) : List Char → List Char
  | [] => []
  | c :: r => soundIn b c r ++ heardFrom (b.next c) r

/-- The sounds of the letters of a text. -/
def heard (s : List Char) : List Char :=
  heardFrom .other s

/-- A text after the first pass, with each character in lower case on its own. -/
def firstPass (s : List Char) : List Char :=
  (foldSounds s).flatMap fun c => lowerChar (stripAccent c)

/-- What the first pass makes of a letter on its own. -/
def firstLetter (c : Char) : Char :=
  lowerLetter (stripAccent (foldLetter c))

/-! ### The first pass by its steps -/

theorem isPlain_of_mem_firstPass {s : List Char} : ∀ d ∈ firstPass s, IsPlain d := by
  intro d hd
  obtain ⟨c, -, hd⟩ := List.mem_flatMap.mp hd
  exact isPlain_of_mem_lowerChar_stripAccent hd

theorem firstPass_labial {c d : Char} (hc : opensLabial c = true) (hd : upsilons.contains d = true)
    (r : List Char) : firstPass (c :: d :: r) =
      firstLetter c :: labialSound (isVoiced r.head? r.tail.head?) :: firstPass r := by
  have hall : ∀ c ∈ letters, opensLabial c = true →
      lowerChar (stripAccent c) = [firstLetter c] := by decide
  rw [firstPass, foldSounds_labial hc hd, List.flatMap_cons, List.flatMap_cons, lowerChar_labial,
    hall c (mem_letters_of_opensLabial hc) hc]
  rfl

theorem firstPass_epsilon {c d : Char} (hc : isAlpha c = true) (hd : iotas.contains d = true)
    (r : List Char) : firstPass (c :: d :: r) = 'ε' :: firstPass r := by
  have hall : ∀ d ∈ iotas, lowerChar (stripAccent (epsilonOf d)) = ['ε'] := by
    rw [iotas_eq]
    decide
  rw [firstPass, foldSounds_epsilon hc hd, List.flatMap_cons,
    hall d (List.contains_iff_mem.mp hd)]
  rfl

theorem firstPass_iota {c d : Char} (hc : yieldsToIota c = true) (hd : iotas.contains d = true)
    (r : List Char) : firstPass (c :: d :: r) = 'ι' :: firstPass r := by
  have hall : ∀ d ∈ iotas, lowerChar (stripAccent d) = ['ι'] := by
    rw [iotas_eq]
    decide
  rw [firstPass, foldSounds_iota hc hd, List.flatMap_cons, hall d (List.contains_iff_mem.mp hd)]
  rfl

theorem firstPass_letter {c : Char} {s : List Char} (hpair : beginsPair c s = false)
    (hc : c ∈ letters) : firstPass (c :: s) = firstLetter c :: firstPass s := by
  rw [firstPass, foldSounds_cons hpair, List.flatMap_cons,
    lowerChar_of_mem_letters (stripAccent_mem_letters (foldLetter_mem_letters hc))]
  rfl

theorem firstPass_inert {c : Char} (hc : IsInert c) (s : List Char) :
    firstPass (c :: s) = lowerChar c ++ firstPass s := by
  rw [firstPass, foldSounds_cons_of_inert hc, List.flatMap_cons, stripAccent_of_inert hc]
  rfl

/-! ### How a text begins after the first pass -/

/-- A property of first characters that no vowel in front of an iota has, said before and after the
first pass. -/
theorem any_head?_firstPass {p q : Char → Bool}
    (hvowels : p 'α' = false ∧ p 'ε' = false ∧ p 'ι' = false ∧ p 'ο' = false)
    (hletters : ∀ c ∈ letters, p (firstLetter c) = q c)
    (hinert : ∀ c, IsInert c → p (lowerHead c) = q c) (s : List Char) :
    (firstPass s).head?.any p = s.head?.any q := by
  obtain ⟨hα, hε, hι, hο⟩ := hvowels
  have hfirst : ∀ c ∈ letters, isAlpha c = true ∨ yieldsToIota c = true →
      firstLetter c = 'α' ∨ firstLetter c = 'ε' ∨ firstLetter c = 'ι' ∨ firstLetter c = 'ο' := by
    decide
  have hq {c : Char} (hc : c ∈ letters) (h : isAlpha c = true ∨ yieldsToIota c = true) :
      q c = false := by
    rw [← hletters c hc]
    rcases hfirst c hc h with h | h | h | h <;> rw [h] <;> assumption
  induction s using foldSounds_induction with
  | nil => rfl
  | labial c d r hc hd ih =>
    rw [firstPass_labial hc hd]
    exact hletters c (mem_letters_of_opensLabial hc)
  | epsilon c d r hc hd ih =>
    rw [firstPass_epsilon hc hd]
    exact hε.trans (hq (mem_letters_of_isAlpha hc) (.inl hc)).symm
  | iota c d r hc hd ih =>
    rw [firstPass_iota hc hd]
    exact hι.trans (hq (mem_letters_of_yieldsToIota hc) (.inr hc)).symm
  | single c s hpair ih =>
    by_cases hc : c ∈ letters
    · rw [firstPass_letter hpair hc]
      exact hletters c hc
    · rw [firstPass_inert hc, lowerChar_eq_cons]
      exact hinert c hc

theorem splitUpsilons_of_inert {c : Char} (h : IsInert c) : splitUpsilons.contains c = false :=
  not_mem_of_inert h (by decide)

theorem lowerHead_ne_of_inert {c d : Char} (hc : IsInert c) (hd : d ∈ letters) (hω : d ≠ 'ω') :
    lowerHead c ≠ d := by
  rintro rfl
  by_cases hohm : c = ohm
  · exact hω (by rw [hohm]; decide)
  · exact isInert_of_mem_lowerChar hc hohm (lowerHead_mem c) hd

/-- After the first pass an upsilon is one that had a diaeresis. -/
theorem head?_firstPass_upsilon (s : List Char) :
    ((firstPass s).head? == some 'υ') = s.head?.any splitUpsilons.contains := by
  have hletters : ∀ c ∈ letters, (firstLetter c == 'υ') = splitUpsilons.contains c := by
    decide
  have hinert : ∀ c, IsInert c → (lowerHead c == 'υ') = splitUpsilons.contains c := by
    intro c hc
    rw [splitUpsilons_of_inert hc]
    exact beq_eq_false_iff_ne.mpr (lowerHead_ne_of_inert hc (by decide) (by decide))
  rw [← any_head?_firstPass (p := (· == 'υ')) (by decide) hletters hinert]
  cases firstPass s <;> rfl

theorem sound_of_mem_letters {c : Char} (hc : c ∈ letters) :
    sound c = [foldLetter (firstLetter c)] := by
  rw [sound, lowerChar_of_mem_letters (stripAccent_mem_letters (foldLetter_mem_letters hc))]
  rfl

theorem sound_ohm : sound ohm = ['ο'] := by decide

theorem sound_of_inert {c : Char} (hc : IsInert c) (hohm : c ≠ ohm) : sound c = lowerChar c := by
  have hlower : ∀ d ∈ lowerChar c, foldLetter d = d := fun d hd =>
    foldLetter_of_inert (isInert_of_mem_lowerChar hc hohm hd)
  rw [sound, foldLetter_of_inert hc, stripAccent_of_inert hc, List.map_congr_left hlower,
    List.map_id']

theorem sound_ne_iota_of_inert {c : Char} (hc : IsInert c) : sound c ≠ ['ι'] := by
  by_cases hohm : c = ohm
  · rw [hohm, sound_ohm]
    decide
  · rw [sound_of_inert hc hohm, lowerChar_eq_cons]
    exact fun h => lowerHead_ne_of_inert hc (by decide) (by decide) (List.cons.inj h).1

theorem isVowel_of_isPair {c : Char} (h : opensLabial c = true ∨ yieldsToIota c = true) :
    vowels.contains c = true := by
  have hc : c ∈ letters := h.elim mem_letters_of_opensLabial mem_letters_of_yieldsToIota
  have hall : ∀ c ∈ letters, opensLabial c = true ∨ yieldsToIota c = true →
      vowels.contains c = true := by
    rw [vowels_eq]
    decide
  exact hall c hc h

/-- What begins no pair does not yield to an iota behind it. -/
theorem yieldsToIota_of_not_beginsPair {c : Char} {s : List Char} (h : beginsPair c s = false) :
    (yieldsToIota c && s.head?.any iotas.contains) = false := by
  cases s with
  | nil => simp
  | cons d r =>
    have h : isPair c d = false := h
    simp only [isPair, Bool.or_eq_false_iff] at h
    exact h.2

/-- After the first pass a text begins with an iota if it did before or the pass makes one. -/
theorem head?_firstPass_iota (s : List Char) :
    ((firstPass s).head? == some 'ι') = beginsIota s := by
  have hletters : ∀ c ∈ letters, (firstLetter c == 'ι') =
      (sound c == ['ι'] && !splitUpsilons.contains c) := by
    intro c hc
    rw [sound_of_mem_letters hc]
    revert c
    decide
  have hopens : ∀ c ∈ letters, opensLabial c = true → firstLetter c ≠ 'ι' ∧ sound c ≠ ['ι'] := by
    decide
  induction s using foldSounds_induction with
  | nil => rfl
  | labial c d r hc hd ih =>
    obtain ⟨hfirst, hsound⟩ := hopens c (mem_letters_of_opensLabial hc) hc
    have hι : iotas.contains d = false := by
      rw [Bool.eq_false_iff]
      intro hι
      rw [upsilons_of_iotas hι] at hd
      exact absurd hd (by decide)
    rw [firstPass_labial hc hd, beginsIota, List.head?_cons, List.head?_cons, Option.any_some, hι,
      beq_eq_false_iff_ne.mpr hsound, Bool.and_false]
    exact beq_eq_false_iff_ne.mpr fun h => hfirst (Option.some.inj h)
  | epsilon c d r hc hd ih =>
    have hopens := hopens c (mem_letters_of_isAlpha hc) (opensLabial_of_isAlpha hc)
    have hyields : yieldsToIota c = false := by
      rw [Bool.eq_false_iff]
      intro hyields
      rw [isAlpha_of_yieldsToIota hyields] at hc
      exact absurd hc (by decide)
    rw [firstPass_epsilon hc hd, beginsIota, hyields, beq_eq_false_iff_ne.mpr hopens.2]
    rfl
  | iota c d r hc hd ih =>
    rw [firstPass_iota hc hd, beginsIota, hc, List.head?_cons, List.head?_cons, Option.any_some, hd,
      Bool.and_self, Bool.or_true]
    rfl
  | single c s hpair ih =>
    rw [beginsIota, yieldsToIota_of_not_beginsPair hpair, Bool.or_false]
    by_cases hc : c ∈ letters
    · rw [firstPass_letter hpair hc, ← hletters c hc]
      rfl
    · have hhead : lowerHead c ≠ 'ι' := lowerHead_ne_of_inert hc (by decide) (by decide)
      rw [firstPass_inert hc, lowerChar_eq_cons,
        beq_eq_false_iff_ne.mpr (sound_ne_iota_of_inert hc)]
      exact beq_eq_false_iff_ne.mpr fun h => hhead (Option.some.inj h)

/-- The first pass changes the voice of nothing but the ohm sign, which becomes an omega. -/
theorem isVoiced_firstPass (s : List Char) :
    isVoiced (firstPass s).head? (firstPass s).tail.head? =
      (isVoiced s.head? s.tail.head? || s.head? == some ohm) := by
  have hzeta (s : List Char) : (firstPass s).head?.any isZeta = s.head?.any isZeta :=
    any_head?_firstPass (by decide) (by decide)
      (fun c hc => (sameRole_lowerHead c).2.2.2.2) s
  have hfirst : ∀ c ∈ letters, opensLabial c = true → vowels.contains (firstLetter c) = true := by
    rw [vowels_eq]
    decide
  have hletters : ∀ c ∈ letters, isSounded (firstLetter c) = isSounded c ∧
      isTau (firstLetter c) = isTau c := by
    simp only [isSounded, vowels_eq, voiced_eq]
    decide
  induction s using foldSounds_induction with
  | nil => rfl
  | labial c d r hc hd ih =>
    rw [firstPass_labial hc hd, List.head?_cons, List.head?_cons,
      isVoiced_of_vowel (hfirst c (mem_letters_of_opensLabial hc) hc),
      isVoiced_of_vowel (isVowel_of_isPair (.inl hc)), Bool.true_or]
  | epsilon c d r hc hd ih =>
    rw [firstPass_epsilon hc hd, List.head?_cons, List.head?_cons, isVoiced_of_vowel (by decide),
      isVoiced_of_vowel (isVowel_of_isPair (.inl (opensLabial_of_isAlpha hc))), Bool.true_or]
  | iota c d r hc hd ih =>
    rw [firstPass_iota hc hd, List.head?_cons, List.head?_cons, isVoiced_of_vowel (by decide),
      isVoiced_of_vowel (isVowel_of_isPair (.inr hc)), Bool.true_or]
  | single c s hpair ih =>
    rw [isVoiced_eq, isVoiced_eq]
    by_cases hc : c ∈ letters
    · have hohm : (some c == some ohm) = false :=
        beq_eq_false_iff_ne.mpr fun h => absurd hc (Option.some.inj h ▸ by decide)
      rw [firstPass_letter hpair hc, List.head?_cons, List.head?_cons, List.tail_cons,
        List.tail_cons, hzeta, Option.any_some, Option.any_some, (hletters c hc).1,
        (hletters c hc).2, hohm, Bool.or_false]
      rfl
    · rw [firstPass_inert hc, lowerChar_eq_cons, List.cons_append, List.head?_cons, List.head?_cons,
        Option.any_some, Option.any_some, Option.any_some, Option.any_some,
        isSounded_of_inert hc, isTau_of_inert hc]
      by_cases hohm : c = ohm
      · have hω : isSounded (lowerHead ohm) = true := by decide
        rw [hohm, hω, Bool.true_or, BEq.rfl, Bool.or_true]
      · have hinert := isInert_of_mem_lowerChar hc hohm (lowerHead_mem c)
        rw [isSounded_of_inert hinert, isTau_of_inert hinert,
          beq_eq_false_iff_ne.mpr fun h => hohm (Option.some.inj h)]
        rfl

/-! ### The second pass -/

/-- A plain letter in front of a plain text: what a pass fuses it with is fused in the end. -/
theorem fuse_foldSounds_cons {c : Char} {s : List Char} (hc : IsPlain c)
    (hs : ∀ d ∈ s, IsPlain d) (hυ : c ≠ 'υ')
    (hlabial : opensLabial c = true → s.head? ≠ some 'υ') :
    fuse (foldSounds (c :: s)) = prepend (foldLetter c) (fuse (foldSounds s)) := by
  cases hpair : beginsPair c s with
  | false => rw [foldSounds_cons hpair, fuse_cons]
  | true =>
    cases s with
    | nil => exact absurd hpair Bool.false_ne_true
    | cons d r =>
      have hd := hs d (List.mem_cons_self ..)
      have hpair : isPair c d = true := hpair
      simp only [isPair, Bool.or_eq_true, Bool.and_eq_true] at hpair
      rcases hpair with (⟨hopens, h⟩ | ⟨hα, h⟩) | ⟨hyields, h⟩
      · exact absurd (congrArg some (eq_upsilon_of_isPlain hd h)) (hlabial hopens)
      · obtain rfl := eq_alpha_of_isPlain hc hα
        obtain rfl := eq_iota_of_isPlain hd h
        rw [foldSounds_epsilon hα h, Respelled.fuse_foldSounds_iota]
        rfl
      · obtain rfl := eq_iota_of_isPlain hd h
        have hsettled : IsSettled c ∧ foldLetter c = c := by
          simp only [yieldsToIota, Bool.or_eq_true, beq_iff_eq] at hyields
          rcases hyields with ((((rfl | rfl) | rfl) | rfl) | rfl) | rfl <;>
            first | decide | exact absurd hc (by decide) | exact absurd rfl hυ
        rw [foldSounds_iota hyields h, Respelled.fuse_foldSounds_iota, hsettled.2,
          prepend_of_yields (eq_or_of_yieldsToIota hsettled.1 hyields), fuse_cons,
          prepend_of_ne (by decide) (by decide) (by decide)]

/-- An upsilon in front of a plain text is mute before an iota and an iota itself before anything
else. -/
theorem fuse_foldSounds_upsilon {s : List Char} (hs : ∀ d ∈ s, IsPlain d) :
    fuse (foldSounds ('υ' :: s)) =
      (if s.head? == some 'ι' then [] else ['ι']) ++ fuse (foldSounds s) := by
  by_cases hι : s.head? = some 'ι'
  · obtain ⟨r, rfl⟩ := List.head?_eq_some_iff.mp hι
    rw [foldSounds_iota (by decide) (by decide), Respelled.fuse_foldSounds_iota, fuse_cons,
      prepend_of_ne (by decide) (by decide) (by decide)]
    rfl
  · have hpair : beginsPair 'υ' s = false := by
      cases s with
      | nil => rfl
      | cons d r =>
        have hd : iotas.contains d = false := by
          rw [Bool.eq_false_iff]
          intro hd
          exact hι (congrArg some (eq_iota_of_isPlain (hs d (List.mem_cons_self ..)) hd))
        change isPair 'υ' d = false
        rw [isPair, hd]
        rfl
    rw [foldSounds_cons hpair, fuse_cons, beq_eq_false_iff_ne.mpr hι]
    exact prepend_of_ne (by decide) (by decide) (by decide) _

/-- An upsilon behind an alpha or epsilon is a consonant. -/
theorem fuse_foldSounds_labial {c : Char} (hc : opensLabial c = true) (s : List Char) :
    fuse (foldSounds (c :: 'υ' :: s)) =
      prepend c (labialSound (isVoiced s.head? s.tail.head?) :: fuse (foldSounds s)) := by
  rw [foldSounds_labial hc (by decide), fuse_cons, fuse_cons]
  have hlabial : labial 'υ' s.head? s.tail.head? =
      labialSound (isVoiced s.head? s.tail.head?) := rfl
  rw [hlabial]
  cases isVoiced s.head? s.tail.head? <;>
    rw [prepend_of_ne (c := labialSound _) (by decide) (by decide) (by decide)]

/-! ### What stands in front -/

theorem opensLabial_stripAccent {c : Char} (hc : opensLabial c = true) :
    opensLabial (stripAccent c) = true := by
  have hall : ∀ c ∈ letters, opensLabial c = true → opensLabial (stripAccent c) = true := by
    decide
  exact hall c (mem_letters_of_opensLabial hc) hc

/-- What is no alpha or epsilon without its accent is none with it. -/
theorem not_opens_of_stripAccent {c : Char} (hc : opensLabial (stripAccent c) = false) :
    opensLabial c = false ∧ isAlpha c = false := by
  have hopens : opensLabial c = false := by
    rw [Bool.eq_false_iff]
    intro h
    rw [opensLabial_stripAccent h] at hc
    exact absurd hc (by decide)
  refine ⟨hopens, ?_⟩
  rw [Bool.eq_false_iff]
  intro h
  rw [opensLabial_of_isAlpha h] at hopens
  exact absurd hopens (by decide)

namespace Before

theorem kinds (b : Before) : (b = .alpha ∨ b = .epsilon) ∨ b = .accented ∨ b.IsFree := by
  cases b with
  | alpha => exact .inl (.inl rfl)
  | epsilon => exact .inl (.inr rfl)
  | accented => exact .inr (.inl rfl)
  | paired => exact .inr (.inr (.inl rfl))
  | other => exact .inr (.inr (.inr rfl))

theorem not_isFree_of_or {b : Before} (h : b = .alpha ∨ b = .epsilon) : ¬ b.IsFree := by
  rcases h with rfl | rfl <;> rintro (h | h) <;> exact absurd h (by decide)

theorem not_isFree_accented : ¬ Before.accented.IsFree := by
  rintro (h | h) <;> exact absurd h (by decide)

theorem isFree_next_iff (b : Before) (c : Char) :
    (b.next c).IsFree ↔ opensLabial (stripAccent c) = false := by
  constructor
  · intro hfree
    rw [Bool.eq_false_iff]
    intro htakes
    unfold next IsFree at hfree
    rw [if_pos htakes] at hfree
    split_ifs at hfree <;> simp at hfree
  · intro htakes
    obtain ⟨hopens, hα⟩ := not_opens_of_stripAccent htakes
    rw [next, hα, hopens, htakes]
    by_cases hpaired : b = .alpha ∧ iotas.contains c = true
    · rw [if_pos hpaired]
      exact .inl rfl
    · rw [if_neg hpaired]
      exact .inr rfl

end Before

/-! ### Sounds where they stand -/

theorem heardFrom_cons (b : Before) (c : Char) (r : List Char) :
    heardFrom b (c :: r) = soundIn b c r ++ heardFrom (b.next c) r := rfl

theorem heard_cons (c : Char) (r : List Char) :
    heard (c :: r) = soundIn .other c r ++ heardFrom (Before.other.next c) r := rfl

/-- Only an upsilon is heard by what stands around it. -/
theorem soundIn_eq_sound {c : Char} (hsplit : splitUpsilons.contains c = false)
    (hυ : upsilons.contains c = false) (b : Before) (r : List Char) : soundIn b c r = sound c := by
  rw [soundIn, hsplit, hυ]
  rfl

theorem soundIn_of_inert {c : Char} (hc : IsInert c) (b : Before) (r : List Char) :
    soundIn b c r = sound c :=
  soundIn_eq_sound (splitUpsilons_of_inert hc) (upsilons_of_inert hc) b r

theorem soundIn_of_split {e : Char} (he : splitUpsilons.contains e = true) {b : Before}
    (hb : b ≠ .other) (r : List Char) : soundIn b e r =
      [labialSound (isVoiced r.head? r.tail.head? || r.head? == some ohm)] := by
  rw [soundIn, if_pos he, if_neg hb]

section Upsilon

variable {b : Before} {c : Char}

/-- An upsilon without a diaeresis behind a plain alpha or epsilon. -/
theorem soundIn_of_or (hsplit : splitUpsilons.contains c = false)
    (hυ : upsilons.contains c = true) (hb : b = .alpha ∨ b = .epsilon) (r : List Char) :
    soundIn b c r = [labialSound (isVoiced r.head? r.tail.head?)] := by
  rw [soundIn, hsplit, hυ, if_pos hb]
  rfl

/-- An upsilon without a diaeresis where it is a vowel. -/
theorem soundIn_of_isFree (hsplit : splitUpsilons.contains c = false)
    (hυ : upsilons.contains c = true) (hb : b = .accented ∨ b.IsFree) (r : List Char) :
    soundIn b c r = if yieldsToIota c && r.head?.any iotas.contains then [] else ['ι'] := by
  rw [soundIn, hsplit, hυ]
  rcases hb with rfl | rfl | rfl <;> rfl

end Upsilon

theorem soundIn_of_iotas {d : Char} (hd : iotas.contains d = true) (b : Before) (r : List Char) :
    soundIn b d r = ['ι'] := by
  have hall : ∀ d ∈ iotas, splitUpsilons.contains d = false ∧ sound d = ['ι'] := by
    rw [iotas_eq]
    decide
  obtain ⟨hsplit, hsound⟩ := hall d (List.contains_iff_mem.mp hd)
  rw [soundIn_eq_sound hsplit (upsilons_of_iotas hd), hsound]

/-- A letter that is no alpha or epsilon is forgotten, unless it is a pair with an alpha. -/
theorem Before.next_eq_other {b : Before} {c : Char} (hc : opensLabial (stripAccent c) = false)
    (hb : b = .alpha → iotas.contains c = false) : b.next c = .other := by
  obtain ⟨hopens, hα⟩ := not_opens_of_stripAccent hc
  have hpaired : ¬ (b = .alpha ∧ iotas.contains c = true) := fun ⟨hα, hι⟩ => by
    rw [hb hα] at hι
    exact absurd hι (by decide)
  rw [Before.next, hα, hopens, hc, if_neg hpaired]
  rfl

theorem Before.next_of_isAlpha {c : Char} (hc : isAlpha c = true) (b : Before) :
    b.next c = .alpha := by
  rw [Before.next, if_pos hc]

/-- What stands in front does not matter to a text that begins with no upsilon and no pair. -/
theorem heardFrom_eq_heard {b : Before} {s : List Char}
    (hsplit : s.head?.any splitUpsilons.contains = false)
    (hυ : b = .alpha ∨ b = .epsilon → s.head?.any upsilons.contains = false)
    (hι : b = .alpha → s.head?.any iotas.contains = false) : heardFrom b s = heard s := by
  cases s with
  | nil => rfl
  | cons c r =>
    have hsplit : splitUpsilons.contains c = false := hsplit
    have hsound : soundIn b c r = soundIn .other c r := by
      by_cases hb : b = .alpha ∨ b = .epsilon
      · have hυ : upsilons.contains c = false := hυ hb
        rw [soundIn_eq_sound hsplit hυ, soundIn_eq_sound hsplit hυ]
      · simp only [soundIn, hsplit, if_neg hb, reduceCtorEq, or_self, if_false]
    have hnext : b.next c = Before.other.next c := by
      have hpaired : ¬ (b = .alpha ∧ iotas.contains c = true) := fun ⟨hα, h⟩ => by
        have hc : iotas.contains c = false := hι hα
        rw [hc] at h
        exact absurd h (by decide)
      simp only [Before.next, if_neg hpaired, reduceCtorEq, false_and, if_false]
    rw [heard, heardFrom_cons, heardFrom_cons, hsound, hnext]

/-! ### All passes -/

theorem fuse_append_of_inert {a : List Char} (ha : ∀ c ∈ a, IsInert c) (s : List Char) :
    fuse (a ++ s) = a ++ fuse s := by
  induction a with
  | nil => rfl
  | cons c a ih =>
    rw [List.forall_mem_cons] at ha
    rw [List.cons_append, fuse_cons, ih ha.2, List.cons_append]
    refine prepend_of_ne ?_ ?_ ?_ _ <;> rintro rfl <;> exact absurd ha.1 (by decide)

theorem isPlain_firstLetter {c : Char} (hc : c ∈ letters) : IsPlain (firstLetter c) := by
  refine isPlain_of_mem_lowerChar_stripAccent (c := foldLetter c) ?_
  rw [lowerChar_of_mem_letters (stripAccent_mem_letters (foldLetter_mem_letters hc))]
  exact List.mem_singleton_self _

theorem isPlain_labialSound (b : Bool) : IsPlain (labialSound b) ∧ labialSound b ≠ 'υ' ∧
    opensLabial (labialSound b) = false ∧ foldLetter (labialSound b) = labialSound b := by
  cases b <;> decide

/-- A vowel that takes an upsilon with it, sooner or later. -/
theorem firstLetter_of_opens {c : Char} (hc : opensLabial (stripAccent c) = true) :
    c ∈ letters ∧ opensLabial (firstLetter c) = true ∧ firstLetter c ≠ 'υ' ∧
      foldLetter (firstLetter c) = firstLetter c ∧ splitUpsilons.contains c = false ∧
      upsilons.contains c = false := by
  have hmem : c ∈ letters := by
    by_contra hinert
    rw [stripAccent_of_inert hinert, opensLabial_of_inert hinert] at hc
    exact absurd hc (by decide)
  have hall : ∀ c ∈ letters, opensLabial (stripAccent c) = true →
      opensLabial (firstLetter c) = true ∧ firstLetter c ≠ 'υ' ∧
      foldLetter (firstLetter c) = firstLetter c ∧ splitUpsilons.contains c = false ∧
      upsilons.contains c = false := by
    rw [upsilons_eq]
    decide
  exact ⟨hmem, hall c hmem hc⟩

/-- An upsilon with a diaeresis begins no pair. -/
theorem firstLetter_of_split {e : Char} (he : splitUpsilons.contains e = true) :
    e ∈ letters ∧ opensLabial e = false ∧ isAlpha e = false ∧ yieldsToIota e = false ∧
      firstLetter e = 'υ' ∧ ∀ b : Before, b.next e = .other := by
  have hall : ∀ e ∈ splitUpsilons, e ∈ letters ∧ opensLabial e = false ∧ isAlpha e = false ∧
      yieldsToIota e = false ∧ firstLetter e = 'υ' ∧ opensLabial (stripAccent e) = false ∧
      iotas.contains e = false := by
    rw [iotas_eq]
    decide
  obtain ⟨hmem, hopens, hα, hyields, hfirst, hstrip, hι⟩ := hall e (List.contains_iff_mem.mp he)
  exact ⟨hmem, hopens, hα, hyields, hfirst, fun b => Before.next_eq_other hstrip fun _ => hι⟩

theorem firstPass_split {e : Char} (he : splitUpsilons.contains e = true) (r : List Char) :
    firstPass (e :: r) = 'υ' :: firstPass r := by
  obtain ⟨hmem, hopens, -, hyields, hfirst, -⟩ := firstLetter_of_split he
  rw [firstPass_letter (beginsPair_of_not_first hopens hyields r) hmem, hfirst]

/-- An upsilon with a diaeresis behind what takes it. -/
theorem heardFrom_split {e : Char} (he : splitUpsilons.contains e = true) {b : Before}
    (hb : b ≠ .other) (r : List Char) : heardFrom b (e :: r) =
      labialSound (isVoiced (firstPass r).head? (firstPass r).tail.head?) :: heard r := by
  rw [heardFrom_cons, soundIn_of_split he hb, (firstLetter_of_split he).2.2.2.2.2 b,
    isVoiced_firstPass]
  rfl

theorem heard_labial {c d : Char} (hc : opensLabial c = true) (hd : upsilons.contains d = true)
    (r : List Char) : heard (c :: d :: r) =
      firstLetter c :: labialSound (isVoiced r.head? r.tail.head?) :: heard r := by
  obtain ⟨hmem, -, -, hfold, hsplit, hυ⟩ := firstLetter_of_opens (opensLabial_stripAccent hc)
  have hall : ∀ d ∈ upsilons, splitUpsilons.contains d = false ∧
      opensLabial (stripAccent d) = false := by
    rw [upsilons_eq]
    decide
  obtain ⟨hdsplit, hdstrip⟩ := hall d (List.contains_iff_mem.mp hd)
  have hnext : Before.other.next c = .alpha ∨ Before.other.next c = .epsilon := by
    rw [Before.next, hc]
    cases isAlpha c
    · exact .inr rfl
    · exact .inl rfl
  have hdι : iotas.contains d = false := by
    rw [Bool.eq_false_iff]
    intro hι
    rw [upsilons_of_iotas hι] at hd
    exact absurd hd (by decide)
  rw [heard, heardFrom_cons, heardFrom_cons, soundIn_eq_sound hsplit hυ, sound_of_mem_letters hmem,
    hfold, soundIn_of_or hdsplit hd hnext, Before.next_eq_other hdstrip fun _ => hdι]
  rfl

theorem heard_alpha {c d : Char} (hc : isAlpha c = true) (hd : iotas.contains d = true)
    (r : List Char) : heard (c :: d :: r) = 'α' :: 'ι' :: heardFrom .paired r := by
  have hall : ∀ c ∈ letters, isAlpha c = true → sound c = ['α'] := by decide
  have hnext : Before.alpha.next d = .paired := by
    have hall : ∀ d ∈ iotas, Before.alpha.next d = .paired := by
      rw [iotas_eq]
      decide
    exact hall d (List.contains_iff_mem.mp hd)
  obtain ⟨-, -, -, -, hsplit, hυ⟩ :=
    firstLetter_of_opens (opensLabial_stripAccent (opensLabial_of_isAlpha hc))
  rw [heard, heardFrom_cons, heardFrom_cons, soundIn_eq_sound hsplit hυ,
    hall c (mem_letters_of_isAlpha hc) hc, soundIn_of_iotas hd, Before.next_of_isAlpha hc, hnext]
  rfl

theorem heard_iota {c d : Char} (hc : yieldsToIota c = true) (hd : iotas.contains d = true)
    (r : List Char) : ∃ m, (m = [] ∨ m = ['ε'] ∨ m = ['ο']) ∧
      heard (c :: d :: r) = m ++ 'ι' :: heard r := by
  have hnext : ∀ b : Before, b ≠ .alpha → b.next d = .other := by
    have hall : ∀ d ∈ iotas, opensLabial (stripAccent d) = false := by
      rw [iotas_eq]
      decide
    exact fun b hb => Before.next_eq_other (hall d (List.contains_iff_mem.mp hd))
      fun h => absurd h hb
  have hcnext : Before.other.next c ≠ .alpha := by
    rw [Before.next, isAlpha_of_yieldsToIota hc]
    repeat' split <;> simp_all
  have hall : ∀ c ∈ letters, yieldsToIota c = true → splitUpsilons.contains c = false ∧
      (upsilons.contains c = true ∨ sound c = ['ε'] ∨ sound c = ['ο']) := by
    rw [upsilons_eq]
    decide
  obtain ⟨hsplit, hsound⟩ := hall c (mem_letters_of_yieldsToIota hc) hc
  refine ⟨soundIn .other c (d :: r), ?_, ?_⟩
  · cases hυ : upsilons.contains c with
    | true =>
      left
      rw [soundIn, hsplit, hυ, hc, List.head?_cons, Option.any_some, hd]
      rfl
    | false =>
      rw [hυ] at hsound
      rw [soundIn_eq_sound hsplit hυ]
      exact .inr (hsound.resolve_left (by decide))
  · rw [heard, heardFrom_cons, heardFrom_cons, soundIn_of_iotas hd, hnext _ hcnext]
    rfl

theorem fuse_iota (s : List Char) : fuse ('ι' :: s) = 'ι' :: fuse s := by
  rw [fuse_cons, prepend_of_ne (by decide) (by decide) (by decide)]

theorem fuse_labialSound (b : Bool) (s : List Char) :
    fuse (labialSound b :: s) = labialSound b :: fuse s := by
  rw [fuse_cons]
  cases b <;> exact prepend_of_ne (by decide) (by decide) (by decide) _

theorem not_split_of_first {c : Char} (hc : opensLabial c = true ∨ yieldsToIota c = true) :
    splitUpsilons.contains c = false := by
  have hmem : c ∈ letters := hc.elim mem_letters_of_opensLabial mem_letters_of_yieldsToIota
  have hall : ∀ c ∈ letters, opensLabial c = true ∨ yieldsToIota c = true →
      splitUpsilons.contains c = false := by
    decide
  exact hall c hmem hc

/-- What is heard of a letter that begins no pair and takes no upsilon with it. -/
theorem soundIn_single {c : Char} {s : List Char} (hpair : beginsPair c s = false)
    (hsplit : splitUpsilons.contains c = false) : soundIn .other c s = sound c := by
  cases hυ : upsilons.contains c with
  | true =>
    have hall : ∀ c ∈ upsilons, sound c = ['ι'] := by
      rw [upsilons_eq]
      decide
    rw [soundIn, hsplit, hυ, yieldsToIota_of_not_beginsPair hpair,
      hall c (List.contains_iff_mem.mp hυ)]
    rfl
  | false => exact soundIn_eq_sound hsplit hυ _ _

/-- What begins no pair is followed by no upsilon and no iota that it takes with it. -/
theorem heardFrom_next {c : Char} {s : List Char} (hpair : beginsPair c s = false)
    (hsplit : s.head?.any splitUpsilons.contains = false) :
    heardFrom (Before.other.next c) s = heard s := by
  have hnext : (Before.other.next c = .alpha → isAlpha c = true) ∧
      (Before.other.next c = .epsilon → opensLabial c = true) := by
    rw [Before.next]
    constructor <;> split_ifs <;> simp_all
  refine heardFrom_eq_heard hsplit (fun hb => ?_) fun hb => ?_
  · have hopens : opensLabial c = true :=
      hb.elim (fun h => opensLabial_of_isAlpha (hnext.1 h)) hnext.2
    cases s with
    | nil => rfl
    | cons d r =>
      have hpair : isPair c d = false := hpair
      simp only [isPair, hopens, Bool.true_and, Bool.or_eq_false_iff] at hpair
      exact hpair.1.1
  · cases s with
    | nil => rfl
    | cons d r =>
      have hpair : isPair c d = false := hpair
      simp only [isPair, hnext.1 hb, Bool.true_and, Bool.or_eq_false_iff] at hpair
      exact hpair.1.2

/-- The passes behind the first one give the sounds of the letters of a text, fused. -/
def IsHeard (s : List Char) : Prop :=
  fuse (foldSounds (firstPass s)) = fuse (heard s)

namespace IsHeard

variable {c d : Char} {s r : List Char}

/-- A vowel takes an upsilon with a diaeresis with it in the second pass. -/
theorem fuse_split {e : Char} (he : splitUpsilons.contains e = true) (hr : IsHeard r)
    (hc : opensLabial c = true) {b : Before} (hb : b ≠ .other) :
    fuse (foldSounds (c :: firstPass (e :: r))) = prepend c (fuse (heardFrom b (e :: r))) := by
  rw [firstPass_split he, heardFrom_split he hb, fuse_foldSounds_labial hc, hr, fuse_labialSound]

theorem labial (hs : IsHeard r) (hc : opensLabial c = true) (hd : upsilons.contains d = true) :
    IsHeard (c :: d :: r) := by
  obtain ⟨hmem, -, hne, hfold, -, -⟩ := firstLetter_of_opens (opensLabial_stripAccent hc)
  obtain ⟨hplain, hlabial, hnot, hfold'⟩ := isPlain_labialSound (isVoiced r.head? r.tail.head?)
  have hrest : ∀ d ∈ labialSound (isVoiced r.head? r.tail.head?) :: firstPass r, IsPlain d :=
    List.forall_mem_cons.mpr ⟨hplain, isPlain_of_mem_firstPass⟩
  rw [IsHeard, firstPass_labial hc hd, heard_labial hc hd,
    fuse_foldSounds_cons (isPlain_firstLetter hmem) hrest hne
      (fun _ h => hlabial (Option.some.inj h)),
    fuse_foldSounds_cons hplain isPlain_of_mem_firstPass hlabial
      (fun h => absurd h (by rw [hnot]; decide)),
    hfold, hfold', hs, fuse_cons, fuse_cons]

theorem epsilon (hs : IsHeard r)
    (hsplit : ∀ e t, r = e :: t → splitUpsilons.contains e = true → IsHeard t)
    (hc : isAlpha c = true) (hd : iotas.contains d = true) : IsHeard (c :: d :: r) := by
  have hfused (x : List Char) : fuse ('α' :: 'ι' :: x) = prepend 'ε' (fuse x) := by
    rw [fuse_cons, fuse_cons, prepend_of_ne (c := 'ι') (by decide) (by decide) (by decide),
      prepend_alpha]
  rw [IsHeard, firstPass_epsilon hc hd, heard_alpha hc hd, hfused]
  cases hhead : r.head?.any splitUpsilons.contains with
  | true =>
    cases r with
    | nil => exact absurd hhead (by decide)
    | cons e t => exact fuse_split hhead (hsplit e t rfl hhead) (by decide) (by decide)
  | false =>
    rw [heardFrom_eq_heard hhead (by simp) (by simp), ← hs]
    refine fuse_foldSounds_cons (by decide) isPlain_of_mem_firstPass (by decide) fun _ h => ?_
    rw [← head?_firstPass_upsilon, h] at hhead
    exact absurd hhead (by decide)

theorem iota (hs : IsHeard r) (hc : yieldsToIota c = true) (hd : iotas.contains d = true) :
    IsHeard (c :: d :: r) := by
  obtain ⟨m, hm, hheard⟩ := heard_iota hc hd r
  rw [IsHeard, firstPass_iota hc hd, Respelled.fuse_foldSounds_iota, hheard, hs]
  rcases hm with rfl | rfl | rfl
  · exact (fuse_iota _).symm
  · rw [List.singleton_append, fuse_cons, fuse_iota, prepend_of_yields (.inl rfl)]
  · rw [List.singleton_append, fuse_cons, fuse_iota, prepend_of_yields (.inr rfl)]

/-- An upsilon with a diaeresis is a vowel at the beginning of a text. -/
theorem split (hs : IsHeard s) (hc : splitUpsilons.contains c = true) : IsHeard (c :: s) := by
  have hnext := (firstLetter_of_split hc).2.2.2.2.2 .other
  have hsound : soundIn .other c s = if beginsIota s then [] else ['ι'] := by
    rw [soundIn, if_pos hc, if_pos rfl]
  rw [IsHeard, firstPass_split hc, fuse_foldSounds_upsilon isPlain_of_mem_firstPass,
    head?_firstPass_iota, hs, heard_cons, hnext, hsound]
  cases beginsIota s
  · exact (fuse_iota _).symm
  · rfl

/-- A letter that begins no pair may take an upsilon with a diaeresis with it. -/
theorem letter (hs : IsHeard s)
    (hsplit : ∀ e t, s = e :: t → splitUpsilons.contains e = true → IsHeard t)
    (hc : c ∈ letters) (hpair : beginsPair c s = false)
    (hnot : splitUpsilons.contains c = false) : IsHeard (c :: s) := by
  have hletters : ∀ c ∈ letters, (splitUpsilons.contains c = false → firstLetter c ≠ 'υ') ∧
      (opensLabial (stripAccent c) = false → opensLabial (firstLetter c) = false) := by
    decide
  obtain ⟨hne, hopens⟩ := hletters c hc
  have hplain := isPlain_of_mem_firstPass (s := s)
  rw [IsHeard, firstPass_letter hpair hc, heard_cons, soundIn_single hpair hnot,
    sound_of_mem_letters hc, List.singleton_append, fuse_cons]
  cases hhead : s.head?.any splitUpsilons.contains with
  | false =>
    rw [heardFrom_next hpair hhead, ← hs]
    refine fuse_foldSounds_cons (isPlain_firstLetter hc) hplain (hne hnot) fun _ h => ?_
    rw [← head?_firstPass_upsilon, h] at hhead
    exact absurd hhead (by decide)
  | true =>
    cases htakes : opensLabial (stripAccent c) with
    | false =>
      rw [Before.next_eq_other htakes (by simp), ← heard, ← hs]
      refine fuse_foldSounds_cons (isPlain_firstLetter hc) hplain (hne hnot) fun h => ?_
      rw [hopens htakes] at h
      exact absurd h (by decide)
    | true =>
      obtain ⟨-, hopens, -, hfold, -, -⟩ := firstLetter_of_opens htakes
      have hnext : Before.other.next c ≠ .other := by
        rw [Before.next, htakes]
        split_ifs <;> simp_all
      cases s with
      | nil => exact absurd hhead (by decide)
      | cons e r =>
        rw [hfold]
        exact fuse_split hhead (hsplit e r rfl hhead) hopens hnext

theorem inert (hs : IsHeard s) (hc : IsInert c) : IsHeard (c :: s) := by
  have hnext : Before.other.next c = .other :=
    Before.next_eq_other (by rw [stripAccent_of_inert hc, opensLabial_of_inert hc]) (by simp)
  rw [IsHeard, firstPass_inert hc, heard_cons, soundIn_of_inert hc, hnext, ← heard]
  by_cases hohm : c = ohm
  · have hω : lowerChar ohm = ['ω'] := by decide
    rw [hohm, sound_ohm, hω, List.singleton_append, List.singleton_append, fuse_cons, ← hs]
    exact fuse_foldSounds_cons (by decide) isPlain_of_mem_firstPass (by decide)
      fun h => absurd h (by decide)
  · have hinert : ∀ d ∈ lowerChar c, IsInert d := fun d => isInert_of_mem_lowerChar hc hohm
    rw [sound_of_inert hc hohm, foldSounds_append_of_inert hinert, fuse_append_of_inert hinert,
      fuse_append_of_inert hinert, hs]

end IsHeard

/-- **The passes behind the first one give the sounds of the letters, fused.** -/
theorem fuse_foldSounds_firstPass (s : List Char) :
    fuse (foldSounds (firstPass s)) = fuse (heard s) := by
  -- A vowel takes an upsilon with a diaeresis with it, so the text behind one is needed as well.
  suffices h : IsHeard s ∧ ∀ e r, s = e :: r → splitUpsilons.contains e = true → IsHeard r from h.1
  have hfirst {c e : Char} {r t : List Char} (hc : splitUpsilons.contains c = false)
      (heq : c :: t = e :: r) (he : splitUpsilons.contains e = true) : False := by
    rw [← (List.cons.inj heq).1, hc] at he
    exact absurd he (by decide)
  induction s using foldSounds_induction with
  | nil => exact ⟨rfl, fun e r h => absurd h (by simp)⟩
  | labial c d r hc hd ih =>
    exact ⟨ih.1.labial hc hd, fun e t heq he => (hfirst (not_split_of_first (.inl hc)) heq he).elim⟩
  | epsilon c d r hc hd ih =>
    have hsplit := not_split_of_first (.inl (opensLabial_of_isAlpha hc))
    exact ⟨ih.1.epsilon ih.2 hc hd, fun e t heq he => (hfirst hsplit heq he).elim⟩
  | iota c d r hc hd ih =>
    exact ⟨ih.1.iota hc hd, fun e t heq he => (hfirst (not_split_of_first (.inr hc)) heq he).elim⟩
  | single c s hpair ih =>
    by_cases hsplit : splitUpsilons.contains c = true
    · exact ⟨ih.1.split hsplit, fun e r heq _ => (List.cons.inj heq).2 ▸ ih.1⟩
    · rw [Bool.not_eq_true] at hsplit
      refine ⟨?_, fun e r heq he => (hfirst hsplit heq he).elim⟩
      by_cases hc : c ∈ letters
      · exact ih.1.letter ih.2 hc hpair hsplit
      · exact ih.1.inert hc

end Catalog.Greek
