import Catalog.Proofs.Text.Greek.Variants

/-!
# Folding and accents

The first pass reads the pairs of vowels before the accents are gone, and an accent on one of the
vowels keeps some of the pairs from being read. No later pass makes up for that where the pair has
an upsilon in it: the upsilon has become an iota by then. So accents do tell in some places, all of
them beside an upsilon.

* An upsilon behind an alpha or epsilon with an accent is heard as an iota, not as a consonant.
* An upsilon in front of an iota is mute, but not if it has an accent or the iota has a diaeresis.
* An upsilon with a diaeresis, on the other hand, is mute in front of all that becomes an iota; it
  is a consonant behind a pair of alpha and iota, and an ohm sign behind it has a voice.

## Main definitions

* `Greek.accentTellsAt`, `Greek.accentsTell`: whether an accent tells at a letter, and in a text

## Main results

* `Greek.heardFrom_stripAccents`: accents that do not tell are not heard
* `Greek.fuller_stripAccents`: without a diaeresis on an upsilon, accents that tell are heard
* `Greek.normalizeText_stripAccents`: when texts of the same plain letters have one folded form
-/

namespace Catalog.Greek

/-- Iotas with any accent. -/
def anyIotas : List Char :=
  ['ι', 'ί', 'ϊ', 'ΐ', 'Ι', 'Ί', 'Ϊ']

/-- Whether an accent tells at a letter between what stands in front of it and what follows it. -/
def accentTellsAt (b : Before) (c : Char) (r : List Char) : Bool :=
  if splitUpsilons.contains c then
    match b with
    | .other => beginsIota r && !r.head?.any anyIotas.contains
    | .paired => true
    | .alpha | .epsilon | .accented => r.head? == some ohm
  else if upsilons.contains c then
    match b with
    | .accented => true
    | .alpha | .epsilon => false
    | .paired | .other =>
      r.head?.any anyIotas.contains && !(yieldsToIota c && r.head?.any iotas.contains)
  else false

/-- Whether an accent tells in a text behind what is remembered of the letters in front of it. -/
def accentsTellFrom (b : Before) : List Char → Bool
  | [] => false
  | c :: r => accentTellsAt b c r || accentsTellFrom (b.next c) r

/-- Whether an accent tells in a text. -/
def accentsTell (s : List Char) : Bool :=
  accentsTellFrom .other s

/-! ### Texts without their accents -/

theorem stripAccent_stripAccent (c : Char) : stripAccent (stripAccent c) = stripAccent c := by
  by_cases hc : c ∈ letters
  · have hall : ∀ c ∈ letters, stripAccent (stripAccent c) = stripAccent c := by decide
    exact hall c hc
  · rw [stripAccent_of_inert hc, stripAccent_of_inert hc]

theorem stripAccents_cons (c : Char) (s : List Char) :
    stripAccents (c :: s) = stripAccent c :: stripAccents s := rfl

/-- A property of characters that accents do not change, at the beginning of a text. -/
theorem any_head?_stripAccents {p q : Char → Bool}
    (hletters : ∀ c ∈ letters, p (stripAccent c) = q c)
    (hinert : ∀ c, IsInert c → p c = q c) (s : List Char) :
    (stripAccents s).head?.any p = s.head?.any q := by
  cases s with
  | nil => rfl
  | cons c s =>
    change p (stripAccent c) = q c
    by_cases hc : c ∈ letters
    · exact hletters c hc
    · rw [stripAccent_of_inert hc]
      exact hinert c hc

theorem head?_iotas_stripAccents (s : List Char) :
    (stripAccents s).head?.any iotas.contains = s.head?.any anyIotas.contains := by
  refine any_head?_stripAccents ?_ (fun c hc => ?_) s
  · rw [iotas_eq]
    decide
  · rw [iotas_of_inert hc, not_mem_of_inert hc (by decide)]

/-- Accents do not change a voice. -/
theorem isVoiced_stripAccents (s : List Char) :
    isVoiced (stripAccents s).head? (stripAccents s).tail.head? =
      isVoiced s.head? s.tail.head? := by
  have hzeta (s : List Char) : (stripAccents s).head?.any isZeta = s.head?.any isZeta :=
    any_head?_stripAccents (by decide) (fun c _ => rfl) s
  have hsounded : (stripAccents s).head?.any isSounded = s.head?.any isSounded := by
    refine any_head?_stripAccents ?_ (fun c _ => rfl) s
    simp only [isSounded, vowels_eq, voiced_eq]
    decide
  have htau : (stripAccents s).head?.any isTau = s.head?.any isTau :=
    any_head?_stripAccents (by decide) (fun c _ => rfl) s
  have htail : (stripAccents s).tail = stripAccents s.tail := by cases s <;> rfl
  rw [isVoiced_eq, isVoiced_eq, hsounded, htau, htail, hzeta]

/-- Without its accent an upsilon is plain. -/
theorem stripAccent_upsilon {c : Char}
    (hc : splitUpsilons.contains c = true ∨ upsilons.contains c = true) :
    splitUpsilons.contains (stripAccent c) = false ∧ upsilons.contains (stripAccent c) = true ∧
      yieldsToIota (stripAccent c) = true := by
  have hall : ∀ c ∈ splitUpsilons ++ upsilons, splitUpsilons.contains (stripAccent c) = false ∧
      upsilons.contains (stripAccent c) = true ∧ yieldsToIota (stripAccent c) = true := by
    rw [upsilons_eq]
    decide
  refine hall c (List.mem_append.mpr ?_)
  exact hc.imp List.contains_iff_mem.mp List.contains_iff_mem.mp

theorem soundIn_stripAccent_of_not_upsilon {c : Char} (hsplit : splitUpsilons.contains c = false)
    (hυ : upsilons.contains c = false) (b b' : Before) (r r' : List Char) :
    soundIn b' (stripAccent c) r' = soundIn b c r := by
  by_cases hc : c ∈ letters
  · have hall : ∀ c ∈ letters, splitUpsilons.contains c = false → upsilons.contains c = false →
        splitUpsilons.contains (stripAccent c) = false ∧
        upsilons.contains (stripAccent c) = false ∧
        foldLetter (firstLetter (stripAccent c)) = foldLetter (firstLetter c) := by
      rw [upsilons_eq]
      decide
    obtain ⟨hsplit', hυ', hsound⟩ := hall c hc hsplit hυ
    rw [soundIn_eq_sound hsplit' hυ', soundIn_eq_sound hsplit hυ, sound_of_mem_letters hc,
      sound_of_mem_letters (stripAccent_mem_letters hc), hsound]
  · rw [stripAccent_of_inert hc, soundIn_of_inert hc, soundIn_of_inert hc]

/-! ### What stands in front, without accents -/

namespace Before

/-- What is remembered of a text, and of the text without its accents. -/
structure Plain (b b' : Before) : Prop where
  isFree_iff : b'.IsFree ↔ b.IsFree
  ne_accented : b' ≠ .accented

theorem Plain.next (b b' : Before) (c : Char) : Plain (b.next c) (b'.next (stripAccent c)) where
  isFree_iff := by rw [isFree_next_iff, isFree_next_iff, stripAccent_stripAccent]
  ne_accented := by
    unfold Before.next
    rw [stripAccent_stripAccent]
    split_ifs <;> simp

theorem Plain.eq_or {b b' : Before} (h : Plain b b') (hfree : ¬ b.IsFree) :
    b' = .alpha ∨ b' = .epsilon :=
  b'.kinds.resolve_right fun hor =>
    hor.elim h.ne_accented fun hfree' => hfree (h.isFree_iff.mp hfree')

theorem Plain.not_or {b b' : Before} (h : Plain b b') (hfree : b.IsFree) :
    ¬ (b' = .alpha ∨ b' = .epsilon) := fun hor =>
  not_isFree_of_or hor (h.isFree_iff.mpr hfree)

end Before

/-! ### Where no accent tells -/

/-- An iota is the beginning of an iota, whatever its accent. -/
theorem beginsIota_of_anyIotas {r : List Char} (h : r.head?.any anyIotas.contains = true) :
    beginsIota r = true := by
  cases r with
  | nil => exact absurd h (by decide)
  | cons d r =>
    have hd : anyIotas.contains d = true := h
    have hall : ∀ d ∈ anyIotas, (sound d == ['ι'] && !splitUpsilons.contains d) = true := by
      decide
    rw [beginsIota, hall d (List.contains_iff_mem.mp hd), Bool.true_or]

theorem any_anyIotas_of_iotas {r : List Char} (h : r.head?.any iotas.contains = true) :
    r.head?.any anyIotas.contains = true := by
  cases r with
  | nil => exact absurd h (by decide)
  | cons d r =>
    have hd : iotas.contains d = true := h
    have hall : ∀ d ∈ iotas, anyIotas.contains d = true := by
      rw [iotas_eq]
      decide
    exact hall d (List.contains_iff_mem.mp hd)

/-- An upsilon without an accent, between what stands in front of it and a text without accents. -/
theorem soundIn_stripAccent_upsilon {c : Char}
    (hc : splitUpsilons.contains c = true ∨ upsilons.contains c = true) (b' : Before)
    (r : List Char) : soundIn b' (stripAccent c) (stripAccents r) =
      if b' = .alpha ∨ b' = .epsilon then [labialSound (isVoiced r.head? r.tail.head?)]
      else if r.head?.any anyIotas.contains then [] else ['ι'] := by
  obtain ⟨hsplit, hυ, hyields⟩ := stripAccent_upsilon hc
  rw [soundIn, hsplit, hυ, hyields, isVoiced_stripAccents, head?_iotas_stripAccents]
  rfl

section Upsilon

variable {b b' : Before} {c : Char}

theorem accentTellsAt_of_isFree (hsplit : splitUpsilons.contains c = false)
    (hυ : upsilons.contains c = true) (hb : b.IsFree) (r : List Char) :
    accentTellsAt b c r =
      (r.head?.any anyIotas.contains && !(yieldsToIota c && r.head?.any iotas.contains)) := by
  unfold accentTellsAt
  rw [hsplit, hυ]
  rcases hb with rfl | rfl <;> rfl

theorem accentTellsAt_of_or (hsplit : splitUpsilons.contains c = false)
    (hυ : upsilons.contains c = true) (hb : b = .alpha ∨ b = .epsilon) (r : List Char) :
    accentTellsAt b c r = false := by
  unfold accentTellsAt
  rw [hsplit, hυ]
  rcases hb with rfl | rfl <;> rfl

theorem accentTellsAt_accented (hsplit : splitUpsilons.contains c = false)
    (hυ : upsilons.contains c = true) (r : List Char) : accentTellsAt .accented c r = true := by
  unfold accentTellsAt
  rw [hsplit, hυ]
  rfl

/-- Where no accent tells, an upsilon with a diaeresis sounds as one without. -/
theorem soundIn_split_stripAccent (hb : b.Plain b') (hsplit : splitUpsilons.contains c = true)
    {r : List Char} (h : accentTellsAt b c r = false) :
    soundIn b c r = soundIn b' (stripAccent c) (stripAccents r) := by
  rw [soundIn_stripAccent_upsilon (.inl hsplit)]
  unfold accentTellsAt at h
  rw [if_pos hsplit] at h
  by_cases hother : b = .other
  · subst hother
    have hbegins : beginsIota r = r.head?.any anyIotas.contains := by
      cases hι : r.head?.any anyIotas.contains with
      | true => exact beginsIota_of_anyIotas hι
      | false => simpa only [hι, Bool.not_false, Bool.and_true] using h
    rw [soundIn, if_pos hsplit, if_pos rfl, if_neg (hb.not_or (.inr rfl)), hbegins]
  · have hohm : ¬ b.IsFree ∧ (r.head? == some ohm) = false := by
      rcases b.kinds with hor | rfl | rfl | rfl
      · exact ⟨Before.not_isFree_of_or hor, by rcases hor with rfl | rfl <;> exact h⟩
      · exact ⟨Before.not_isFree_accented, h⟩
      · exact absurd h (Ne.symm Bool.false_ne_true)
      · exact absurd rfl hother
    rw [soundIn_of_split hsplit hother, if_pos (hb.eq_or hohm.1), hohm.2, Bool.or_false]

/-- **Where no accent tells, a letter sounds as it does without accents.** -/
theorem soundIn_stripAccent (hb : b.Plain b') {r : List Char}
    (h : accentTellsAt b c r = false) :
    soundIn b c r = soundIn b' (stripAccent c) (stripAccents r) := by
  cases hsplit : splitUpsilons.contains c with
  | true => exact soundIn_split_stripAccent hb hsplit h
  | false =>
    cases hυ : upsilons.contains c with
    | true =>
      rw [soundIn_stripAccent_upsilon (.inr hυ)]
      rcases b.kinds with hor | rfl | hfree
      · rw [soundIn_of_or hsplit hυ hor, if_pos (hb.eq_or (Before.not_isFree_of_or hor))]
      · rw [accentTellsAt_accented hsplit hυ] at h
        exact absurd h (by decide)
      · have hmute : (yieldsToIota c && r.head?.any iotas.contains) =
            r.head?.any anyIotas.contains := by
          rw [accentTellsAt_of_isFree hsplit hυ hfree] at h
          cases hι : yieldsToIota c && r.head?.any iotas.contains with
          | true =>
            rw [Bool.and_eq_true] at hι
            exact (any_anyIotas_of_iotas hι.2).symm
          | false =>
            rw [hι, Bool.not_false, Bool.and_true] at h
            exact h.symm
        rw [soundIn_of_isFree hsplit hυ (.inr hfree), if_neg (hb.not_or hfree), hmute]
    | false => exact (soundIn_stripAccent_of_not_upsilon hsplit hυ b b' r _).symm

/-- **Beside an upsilon without a diaeresis, an accent that tells adds an iota or takes a
labial.** -/
theorem fuller_soundIn (hb : b.Plain b') (hsplit : splitUpsilons.contains c = false)
    (r : List Char) :
    Fuller (accentTellsAt b c r) (soundIn b c r) (soundIn b' (stripAccent c) (stripAccents r)) := by
  cases htells : accentTellsAt b c r with
  | false =>
    rw [soundIn_stripAccent hb htells]
    exact .refl _
  | true =>
    have hυ : upsilons.contains c = true := by
      by_contra hυ
      unfold accentTellsAt at htells
      rw [hsplit, if_neg Bool.false_ne_true, if_neg hυ] at htells
      exact absurd htells (by decide)
    rw [soundIn_stripAccent_upsilon (.inr hυ)]
    rcases b.kinds with hor | rfl | hfree
    · rw [accentTellsAt_of_or hsplit hυ hor] at htells
      exact absurd htells (by decide)
    · rw [soundIn_of_isFree hsplit hυ (.inl rfl), if_pos (hb.eq_or Before.not_isFree_accented)]
      split
      · exact .labial _ .nil
      · exact .labial _ (.iota .nil)
    · rw [accentTellsAt_of_isFree hsplit hυ hfree, Bool.and_eq_true, Bool.not_eq_true'] at htells
      rw [soundIn_of_isFree hsplit hυ (.inr hfree), htells.2, if_neg (hb.not_or hfree), htells.1]
      exact .iota .nil

end Upsilon

/-! ### Texts -/

/-- **Accents that do not tell are not heard.** -/
theorem heardFrom_stripAccents {b b' : Before} (hb : b.Plain b') {s : List Char}
    (h : accentsTellFrom b s = false) : heardFrom b s = heardFrom b' (stripAccents s) := by
  induction s generalizing b b' with
  | nil => rfl
  | cons c r ih =>
    rw [accentsTellFrom, Bool.or_eq_false_iff] at h
    rw [stripAccents_cons, heardFrom_cons, heardFrom_cons, soundIn_stripAccent hb h.1,
      ih (.next b b' c) h.2]

/-- **Without a diaeresis on an upsilon, accents that tell are heard.** -/
theorem fuller_stripAccents {b b' : Before} (hb : b.Plain b') {s : List Char}
    (hs : ∀ c ∈ s, splitUpsilons.contains c = false) :
    Fuller (accentsTellFrom b s) (heardFrom b s) (heardFrom b' (stripAccents s)) := by
  induction s generalizing b b' with
  | nil => exact .nil
  | cons c r ih =>
    rw [List.forall_mem_cons] at hs
    rw [accentsTellFrom, stripAccents_cons, heardFrom_cons, heardFrom_cons]
    exact (fuller_soundIn hb hs.1 r).append (ih (.next b b' c) hs.2)

/-- Nothing tells in a text without accents. -/
theorem accentsTellFrom_of_plain {b : Before} (hb : b ≠ .accented) {s : List Char}
    (hs : ∀ c ∈ s, stripAccent c = c) : accentsTellFrom b s = false := by
  induction s generalizing b with
  | nil => rfl
  | cons c r ih =>
    rw [List.forall_mem_cons] at hs
    obtain ⟨hc, hr⟩ := hs
    have hnext : b.next c ≠ .accented := hc ▸ (Before.Plain.next b b c).ne_accented
    have hsplit : splitUpsilons.contains c = false := by
      by_contra hsplit
      rw [Bool.not_eq_false] at hsplit
      have hplain := (stripAccent_upsilon (.inl hsplit)).1
      rw [hc, hsplit] at hplain
      exact absurd hplain (by decide)
    rw [accentsTellFrom, ih hnext hr, Bool.or_false]
    cases hυ : upsilons.contains c with
    | false =>
      unfold accentTellsAt
      rw [hsplit, hυ]
      rfl
    | true =>
      rcases b.kinds with hor | rfl | hfree
      · exact accentTellsAt_of_or hsplit hυ hor r
      · exact absurd rfl hb
      · have hyields := (stripAccent_upsilon (.inr hυ)).2.2
        have hstrip : stripAccents r = r := (List.map_congr_left hr).trans (List.map_id _)
        rw [hc] at hyields
        rw [accentTellsAt_of_isFree hsplit hυ hfree, hyields, ← head?_iotas_stripAccents, hstrip,
          Bool.true_and, Bool.and_not_self]

/-- Texts of the same plain letters are variants. -/
theorem Variant.of_stripAccents {s t : List Char} (h : stripAccents s = stripAccents t) :
    Variant s t := by
  induction s generalizing t with
  | nil =>
    cases t with
    | nil => exact .nil
    | cons d t => exact absurd h (by simp [stripAccents])
  | cons c s ih =>
    cases t with
    | nil => exact absurd h (by simp [stripAccents])
    | cons d t =>
      rw [stripAccents_cons, stripAccents_cons, List.cons.injEq] at h
      refine .cons ?_ (ih h.2)
      by_cases hc : c ∈ letters
      · by_cases hd : d ∈ letters
        · exact .inr ⟨hc, hd⟩
        · exact absurd (stripAccent_mem_letters hc) (by rwa [h.1, stripAccent_of_inert hd])
      · by_cases hd : d ∈ letters
        · exact absurd (stripAccent_mem_letters hd) (by rwa [← h.1, stripAccent_of_inert hc])
        · exact .inl (by rw [← stripAccent_of_inert hc, h.1, stripAccent_of_inert hd])

/-- **When two texts of the same plain letters have one folded form**: if what is heard of them is
fused to one text. So it is if no accent tells in either of them, and nothing tells in a text
without accents; and unless an upsilon has a diaeresis, a text in which an accent tells is not folded
to the form of one in which none does. -/
theorem normalizeText_stripAccents {s t : String}
    (h : stripAccents s.toList = stripAccents t.toList) :
    (normalizeText s = normalizeText t ↔ fuse (heard s.toList) = fuse (heard t.toList)) ∧
    (accentsTell t.toList = false →
      (accentsTell s.toList = false → normalizeText s = normalizeText t) ∧
      ((∀ c ∈ s.toList, splitUpsilons.contains c = false) →
        normalizeText s = normalizeText t → accentsTell s.toList = false)) ∧
    (stripAccents t.toList = t.toList → accentsTell t.toList = false) := by
  have hiff : normalizeText s = normalizeText t ↔
      fuse (heard s.toList) = fuse (heard t.toList) := by
    rw [← (Variant.of_stripAccents h).normalize_eq_iff, normalizeText, normalizeText,
      String.ofList_inj]
  have hother : Before.Plain .other .other := ⟨Iff.rfl, by decide⟩
  refine ⟨hiff, fun ht => ?_, fun ht => ?_⟩
  · have hheard : heard t.toList = heard (stripAccents s.toList) := by
      rw [h]
      exact heardFrom_stripAccents hother ht
    rw [hiff, hheard]
    refine ⟨fun hs => congrArg fuse (heardFrom_stripAccents hother hs), fun hs => ?_⟩
    exact (fuller_stripAccents hother hs).fuse_eq_iff.mp
  · exact accentsTellFrom_of_plain (by decide)
      (List.map_inj_left.mp (ht.trans (List.map_id _).symm))

/-- A pair of alpha and iota is read in the second pass, if there is an accent on the alpha. -/
theorem normalizeText_stripAccents_donkey :
    stripAccents "γάιδαρος".toList = stripAccents "γαιδαρος".toList ∧
      normalizeText "γάιδαρος" = normalizeText "γαιδαρος" :=
  have hplain : stripAccents "γάιδαρος".toList = stripAccents "γαιδαρος".toList := by decide
  have h := normalizeText_stripAccents hplain
  ⟨hplain, (h.2.1 (h.2.2 (by decide))).1 (by decide)⟩

/-- An upsilon is mute in front of a plain iota, but not in front of one with a diaeresis. -/
theorem normalizeText_genius_ne :
    stripAccents "ευφυΐα".toList = stripAccents "ευφυια".toList ∧
      normalizeText "ευφυΐα" ≠ normalizeText "ευφυια" := by
  decide

end Catalog.Greek
