import Catalog.Proofs.Text.Greek.Variants

/-!
# Folding and letters of one sound

Eta sounds like iota and omega like omicron, and folding replaces the one by the other. It does so
letter by letter, behind the pairs of vowels: an iota that a pass has just made closes no pair in
that pass. The next pass makes up for that behind an alpha, an epsilon and an omicron. It does not
behind an upsilon, which has become an iota by then and is not mute any more. So the spelling tells
where an upsilon, as a vowel of its own, stands in front of an eta. An upsilon with a diaeresis is
there until the second pass: for it the spelling tells where what follows becomes an iota in the
first pass, or where the pair of alpha and iota in front of it does not become an epsilon.

## Main definitions

* `Greek.simpler`: letters of one sound, and `Greek.Simplified`: texts that differ in them
* `Greek.spellingTellsAt`, `Greek.spellingTells`: whether the spelling tells at a letter, and in a
  text

## Main results

* `Greek.Simplified.fuller`: a spelling that tells is heard, and no other one is
* `Greek.normalizeText_simplified`: when two spellings have one folded form
-/

namespace Catalog.Greek

/-- The letters that are replaced, with simpler ones of the same sound. -/
def simpler : List (Char × Char) :=
  [('η', 'ι'), ('ή', 'ί'), ('ω', 'ο'), ('ώ', 'ό')]

/-- One text has simpler letters at some places of another one. -/
def Simplified (s t : List Char) : Prop :=
  List.Forall₂ (fun c d => d = c ∨ (c, d) ∈ simpler) s t

instance (s t : List Char) : Decidable (Simplified s t) :=
  inferInstanceAs (Decidable (List.Forall₂ _ s t))

/-- Whether the spelling of what follows an upsilon tells, between what is remembered of the letters
in front of it in both spellings. -/
def spellingTellsAt (b b' : Before) (c : Char) (r r' : List Char) : Bool :=
  if splitUpsilons.contains c then
    b != b' || b == .other && !beginsIota r && beginsIota r'
  else
    upsilons.contains c && b != .alpha && b != .epsilon &&
      yieldsToIota c && !r.head?.any iotas.contains && r'.head?.any iotas.contains

/-- Whether the spelling tells in two texts, behind what is remembered of the letters in front. -/
def spellingTellsFrom (b b' : Before) : List Char → List Char → Bool
  | c :: r, d :: r' => spellingTellsAt b b' c r r' || spellingTellsFrom (b.next c) (b'.next d) r r'
  | _, _ => false

/-- Whether the spelling tells in two texts. -/
def spellingTells (s t : List Char) : Bool :=
  spellingTellsFrom .other .other s t

/-- What is remembered of the letters in front, in one spelling and in a simpler one: there may be a
pair more in this. -/
def Before.Simpler (b b' : Before) : Prop :=
  b = b' ∨ b = .other ∧ b' = .paired

/-! ### Simpler letters -/

section Letters

variable {c d : Char}

theorem mem_letters_of_simpler (h : (c, d) ∈ simpler) : c ∈ letters ∧ d ∈ letters := by
  have hall : ∀ p ∈ simpler, p.1 ∈ letters ∧ p.2 ∈ letters := by decide
  exact hall (c, d) h

/-- Letters that are replaced, and those that are put for them, are no upsilons and sound alike. -/
theorem soundIn_of_simpler (h : (c, d) ∈ simpler) (b b' : Before) (r r' : List Char) :
    soundIn b c r = soundIn b' d r' := by
  have hall : ∀ p ∈ simpler, splitUpsilons.contains p.1 = false ∧ upsilons.contains p.1 = false ∧
      splitUpsilons.contains p.2 = false ∧ upsilons.contains p.2 = false ∧
      sound p.1 = sound p.2 := by
    rw [upsilons_eq]
    decide
  obtain ⟨hc, hcυ, hd, hdυ, hsound⟩ := hall (c, d) h
  rw [soundIn_eq_sound hc hcυ, soundIn_eq_sound hd hdυ, hsound]

/-- The spelling does not tell at a letter that is replaced. -/
theorem spellingTellsAt_of_simpler (h : (c, d) ∈ simpler) (b b' : Before) (r r' : List Char) :
    spellingTellsAt b b' c r r' = false := by
  have hall : ∀ p ∈ simpler, splitUpsilons.contains p.1 = false ∧
      upsilons.contains p.1 = false := by
    rw [upsilons_eq]
    decide
  obtain ⟨hsplit, hυ⟩ := hall (c, d) h
  rw [spellingTellsAt, hsplit, hυ]
  rfl

theorem Before.Simpler.next {b b' : Before} (hb : b.Simpler b') (h : d = c ∨ (c, d) ∈ simpler) :
    (b.next c).Simpler (b'.next d) := by
  rcases h with rfl | h
  · rcases hb with rfl | ⟨rfl, rfl⟩
    · exact .inl rfl
    · exact .inl (by simp only [Before.next, reduceCtorEq, false_and, if_false])
  · have hall : ∀ p ∈ simpler, opensLabial (stripAccent p.1) = false ∧
        iotas.contains p.1 = false ∧ opensLabial (stripAccent p.2) = false := by
      rw [iotas_eq]
      decide
    obtain ⟨hc, hι, hd⟩ := hall (c, d) h
    rw [Before.next_eq_other hc fun _ => hι]
    exact ((Before.isFree_next_iff b' d).mpr hd).elim (fun h => .inr ⟨rfl, h⟩) fun h => .inl h.symm

end Letters

/-! ### The beginning of a simpler text -/

namespace Simplified

variable {s t : List Char}

theorem variant (h : Simplified s t) : Variant s t :=
  h.imp fun _ _ h => h.imp Eq.symm mem_letters_of_simpler

theorem head?_any_eq {p : Char → Bool} (hp : ∀ q ∈ simpler, p q.1 = p q.2) (h : Simplified s t) :
    s.head?.any p = t.head?.any p := by
  cases h with
  | nil => rfl
  | cons hhead _ =>
    rcases hhead with rfl | hmem
    · rfl
    · exact hp _ hmem

theorem tail (h : Simplified s t) : Simplified s.tail t.tail := by
  cases h with
  | nil => exact .nil
  | cons _ htail => exact htail

theorem isVoiced_eq (h : Simplified s t) :
    isVoiced s.head? s.tail.head? = isVoiced t.head? t.tail.head? := by
  have hsounded : ∀ q ∈ simpler, isSounded q.1 = isSounded q.2 := by
    simp only [isSounded, vowels_eq, voiced_eq]
    decide
  rw [Greek.isVoiced_eq, Greek.isVoiced_eq, h.head?_any_eq hsounded,
    h.head?_any_eq (p := isTau) (by decide), h.tail.head?_any_eq (p := isZeta) (by decide)]

theorem ohm_eq (h : Simplified s t) : (s.head? == some ohm) = (t.head? == some ohm) := by
  have hany (s : List Char) : (s.head? == some ohm) = s.head?.any (· == ohm) := by
    cases s <;> rfl
  rw [hany, hany, h.head?_any_eq (by decide)]

/-- A simpler text begins with an iota if the other one does. -/
theorem iotas_of_iotas (h : Simplified s t) (hs : s.head?.any iotas.contains = true) :
    t.head?.any iotas.contains = true := by
  cases h with
  | nil => exact hs
  | cons hhead _ =>
    rcases hhead with rfl | hmem
    · exact hs
    · have hall : ∀ q ∈ simpler, iotas.contains q.1 = false := by
        rw [iotas_eq]
        decide
      exact absurd (hs.symm.trans (hall _ hmem)) (by decide)

theorem beginsIota_of_beginsIota (h : Simplified s t) (hs : beginsIota s = true) :
    beginsIota t = true := by
  cases h with
  | nil => exact hs
  | cons hhead htail =>
    rw [beginsIota, Bool.or_eq_true] at hs ⊢
    rcases hhead with rfl | hmem
    · refine hs.imp id fun hι => ?_
      rw [Bool.and_eq_true] at hι ⊢
      exact ⟨hι.1, iotas_of_iotas htail hι.2⟩
    · have hall : ∀ q ∈ simpler, yieldsToIota q.1 = false ∧ sound q.1 = sound q.2 ∧
          splitUpsilons.contains q.1 = splitUpsilons.contains q.2 := by
        decide
      obtain ⟨hyields, hsound, hsplit⟩ := hall _ hmem
      refine .inl ?_
      rw [hyields, Bool.false_and] at hs
      rw [← hsound, ← hsplit]
      exact hs.resolve_right (by decide)

end Simplified

/-! ### Where the spelling tells -/

section Upsilon

variable {b b' : Before} {c : Char} {r r' : List Char}

theorem fuller_soundIn_of_split (hb : b.Simpler b') (hsplit : splitUpsilons.contains c = true)
    (h : Simplified r r') :
    Fuller (spellingTellsAt b b' c r r') (soundIn b c r) (soundIn b' c r') := by
  have hfree (r : List Char) : soundIn .other c r = if beginsIota r then [] else ['ι'] := by
    rw [soundIn, if_pos hsplit, if_pos rfl]
  rw [spellingTellsAt, if_pos hsplit]
  rcases hb with rfl | ⟨rfl, rfl⟩
  · by_cases hother : b = .other
    · subst hother
      rw [hfree, hfree]
      cases hr : beginsIota r with
      | true =>
        rw [h.beginsIota_of_beginsIota hr]
        exact .refl _
      | false =>
        cases beginsIota r' with
        | true => exact .iota .nil
        | false => exact .refl _
    · rw [soundIn_of_split hsplit hother, soundIn_of_split hsplit hother, h.isVoiced_eq, h.ohm_eq,
        bne_self_eq_false, beq_eq_false_iff_ne.mpr hother]
      exact .refl _
  · rw [hfree, soundIn_of_split hsplit (by decide)]
    split
    · exact .labial _ .nil
    · exact .labial _ (.iota .nil)

theorem fuller_soundIn_of_upsilon (hb : b.Simpler b') (hsplit : splitUpsilons.contains c = false)
    (hυ : upsilons.contains c = true) (h : Simplified r r') :
    Fuller (spellingTellsAt b b' c r r') (soundIn b c r) (soundIn b' c r') := by
  rw [spellingTellsAt, hsplit, hυ]
  by_cases hor : b = .alpha ∨ b = .epsilon
  · obtain rfl : b = b' := hb.resolve_right fun hfree => by
      rw [hfree.1] at hor
      exact absurd hor (by decide)
    rw [soundIn_of_or hsplit hυ hor, soundIn_of_or hsplit hυ hor, h.isVoiced_eq]
    rcases hor with rfl | rfl <;> exact .refl _
  · have hvowel' : b' = .accented ∨ b'.IsFree := by
      rcases hb with rfl | ⟨-, rfl⟩
      · exact b.kinds.resolve_left hor
      · exact .inr (.inl rfl)
    rw [not_or] at hor
    rw [soundIn_of_isFree hsplit hυ (b.kinds.resolve_left (not_or.mpr hor)),
      soundIn_of_isFree hsplit hυ hvowel', bne_iff_ne.mpr hor.1, bne_iff_ne.mpr hor.2]
    cases hr : r.head?.any iotas.contains with
    | true =>
      rw [h.iotas_of_iotas hr]
      cases yieldsToIota c <;> exact .refl _
    | false =>
      cases yieldsToIota c with
      | false => exact .refl _
      | true =>
        cases r'.head?.any iotas.contains with
        | false => exact .refl _
        | true => exact .iota .nil

/-- **A simpler spelling behind an upsilon takes an iota from it, or makes it a labial, just where
it tells.** -/
theorem fuller_soundIn_simplified (hb : b.Simpler b') (h : Simplified r r') :
    Fuller (spellingTellsAt b b' c r r') (soundIn b c r) (soundIn b' c r') := by
  cases hsplit : splitUpsilons.contains c with
  | true => exact fuller_soundIn_of_split hb hsplit h
  | false =>
    cases hυ : upsilons.contains c with
    | true => exact fuller_soundIn_of_upsilon hb hsplit hυ h
    | false =>
      rw [spellingTellsAt, hsplit, hυ, soundIn_eq_sound hsplit hυ, soundIn_eq_sound hsplit hυ]
      exact .refl _

end Upsilon

/-! ### Texts -/

/-- **A spelling that tells is heard, and no other one is.** -/
theorem Simplified.fuller {b b' : Before} (hb : b.Simpler b') {s t : List Char}
    (h : Simplified s t) :
    Fuller (spellingTellsFrom b b' s t) (heardFrom b s) (heardFrom b' t) := by
  induction h generalizing b b' with
  | nil => exact .nil
  | @cons c d r r' hhead htail ih =>
    rw [spellingTellsFrom, heardFrom_cons, heardFrom_cons]
    refine .append ?_ (ih (hb.next hhead))
    rcases hhead with rfl | hmem
    · exact fuller_soundIn_simplified hb htail
    · rw [spellingTellsAt_of_simpler hmem, soundIn_of_simpler hmem b b' r r']
      exact .refl _

/-- **Two spellings have one folded form just if the spelling does not tell.** -/
theorem normalizeText_simplified {s t : String} (h : Simplified s.toList t.toList) :
    normalizeText s = normalizeText t ↔ spellingTells s.toList t.toList = false := by
  have hfuller := h.fuller (b := .other) (.inl rfl)
  rw [spellingTells, ← hfuller.fuse_eq_iff]
  rw [normalizeText, normalizeText, String.ofList_inj]
  exact h.variant.normalize_eq_iff

/-- An eta behind an omicron, and an omega. -/
theorem normalizeText_simplified_help :
    Simplified "βοήθεια των".toList "βοίθεια τον".toList ∧
      normalizeText "βοήθεια των" = normalizeText "βοίθεια τον" :=
  have hsimplified : Simplified "βοήθεια των".toList "βοίθεια τον".toList := by decide
  ⟨hsimplified, (normalizeText_simplified hsimplified).mpr (by decide)⟩

/-- An upsilon is mute in front of an iota, but not in front of an eta. -/
theorem normalizeText_eta_ne :
    Simplified "μυητής".toList "μυιτής".toList ∧
      normalizeText "μυητής" ≠ normalizeText "μυιτής" := by
  decide

end Catalog.Greek
