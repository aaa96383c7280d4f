import Catalog.Proofs.Text.Greek.Heard
import Mathlib.Data.List.Forall2

/-!
# Letters for letters

Two texts with letters at the same places, and the same characters elsewhere, are folded to one form
just if what is heard of them is fused to one text: the forms of the sigmas depend on the places of
the letters only. If one of them is heard as the other one with an iota more here and there, or
without a consonant, then fusing does not hide it, since it keeps the number of consonants and the
number of iotas less that of alphas.

## Main definitions

* `Greek.Variant`: texts that differ in their letters only
* `Greek.Fuller`: a text with more iotas and fewer labials

## Main results

* `Greek.Variant.normalize_eq_iff`: when variants have one folded form
* `Greek.Fuller.fuse_eq_iff`: fusing hides no iota and no labial
-/

namespace Catalog.Greek

/-- Texts that differ in nothing but the letters at some places. -/
def Variant (s t : List Char) : Prop :=
  List.Forall₂ (fun c d => c = d ∨ c ∈ letters ∧ d ∈ letters) s t

/-- One text is another one with some further iotas and without some labials, if so marked. -/
inductive Fuller : Bool → List Char → List Char → Prop
  | nil : Fuller false [] []
  | cons (c : Char) {b : Bool} {s t : List Char} (h : Fuller b s t) : Fuller b (c :: s) (c :: t)
  | iota {b : Bool} {s t : List Char} (h : Fuller b s t) : Fuller true ('ι' :: s) t
  | labial (v : Bool) {b : Bool} {s t : List Char} (h : Fuller b s t) :
    Fuller true s (labialSound v :: t)

/-! ### The folded form of a heard text -/

/-- **The folded form of a text is its fused sounds**, but for the forms of the sigmas. -/
theorem map_blur_normalize {s : List Char} (h : needsFolding s = true ∨ ∀ c ∈ s, IsLower c) :
    (normalize s).map blur = (fuse (heard s)).map blur := by
  have hfirst : (foldOnce s).map blur = (firstPass s).map blur := by
    rw [foldOnce, lowercase, map_blur_lowercaseFrom, stripAccents, List.flatMap_map]
    rfl
  rw [normalize_eq h, ← fuse_foldSounds_firstPass, ← fuse_map_blur, ← fuse_map_blur,
    ← foldSounds_map_blur, ← foldSounds_map_blur, hfirst]

/-! ### Sigmas -/

/-- A letter is not heard as a sigma. -/
theorem sigmas_soundIn_of_letters {c : Char} (hc : c ∈ letters) (b : Before) (r : List Char) :
    sigmas (soundIn b c r) = [] := by
  have hsound : sigmas (sound c) = [] := by
    have hall : ∀ c ∈ letters, sigmas [foldLetter (firstLetter c)] = [] := by decide
    rw [sound_of_mem_letters hc]
    exact hall c hc
  have hlabial (v : Bool) : sigmas [labialSound v] = [] := by cases v <;> rfl
  unfold soundIn
  split_ifs
  · rfl
  · rfl
  · exact hlabial _
  · exact hlabial _
  · rfl
  · rfl
  · exact hsound

variable {s t : List Char}

theorem needsFolding_of_mem {c : Char} (hc : c ∈ letters) (hs : c ∈ s) : needsFolding s = true := by
  have hall : ∀ c ∈ letters, firstCode ≤ c.toNat := by decide
  exact List.any_eq_true.mpr ⟨c, hs, by rw [decide_eq_true (hall c hc), Bool.true_or]⟩

namespace Variant

/-- Variants are one text, or both of them have letters. -/
theorem eq_or_needsFolding (h : Variant s t) :
    s = t ∨ needsFolding s = true ∧ needsFolding t = true := by
  induction h with
  | nil => exact .inl rfl
  | cons hhead _ ih =>
    rcases hhead with rfl | ⟨hc, hd⟩
    · refine ih.imp (congrArg _) (And.imp ?_ ?_) <;>
      · intro h
        rw [needsFolding, List.any_cons, ← needsFolding, h, Bool.or_true]
    · exact .inr ⟨needsFolding_of_mem hc (List.mem_cons_self ..),
        needsFolding_of_mem hd (List.mem_cons_self ..)⟩

theorem casedNext_eq (h : Variant s t) : casedNext s = casedNext t := by
  induction h with
  | nil => rfl
  | cons hhead _ ih =>
    rcases hhead with rfl | ⟨hc, hd⟩
    · rw [casedNext_cons, casedNext_cons, ih]
    · rw [casedNext_cons_of_letters hc, casedNext_cons_of_letters hd]

theorem sigmas_lowercaseFrom (h : Variant s t) (inWord : Bool) :
    sigmas (lowercaseFrom inWord s) = sigmas (lowercaseFrom inWord t) := by
  induction h generalizing inWord with
  | nil => rfl
  | cons hhead htail ih =>
    rcases hhead with rfl | ⟨hc, hd⟩
    · rw [lowercaseFrom, lowercaseFrom, sigmas_append, sigmas_append, ih, casedNext_eq htail]
    · rw [sigmas_lowercaseFrom_cons hc, sigmas_lowercaseFrom_cons hd, ih]

theorem sigmas_heardFrom (h : Variant s t) (b b' : Before) :
    sigmas (heardFrom b s) = sigmas (heardFrom b' t) := by
  induction h generalizing b b' with
  | nil => rfl
  | @cons c d s t hhead _ ih =>
    rw [heardFrom_cons, heardFrom_cons, sigmas_append, sigmas_append, ih _ (b'.next d)]
    congr 1
    by_cases hc : c ∈ letters
    · have hd : d ∈ letters := hhead.elim (fun heq => heq ▸ hc) And.right
      rw [sigmas_soundIn_of_letters hc, sigmas_soundIn_of_letters hd]
    · obtain rfl := hhead.resolve_right fun h => hc h.1
      rw [soundIn_of_inert hc, soundIn_of_inert hc]

/-- **Variants have one folded form just if they are heard as texts that are fused to one.** -/
theorem normalize_eq_iff (h : Variant s t) :
    normalize s = normalize t ↔ fuse (heard s) = fuse (heard t) := by
  rcases h.eq_or_needsFolding with rfl | ⟨hs, ht⟩
  · exact iff_of_true rfl rfl
  · have hblurs := map_blur_normalize (.inl hs)
    have hblurt := map_blur_normalize (.inl ht)
    constructor
    · intro heq
      refine eq_of_map_blur_of_sigmas (by rw [← hblurs, heq, hblurt]) ?_
      rw [sigmas_fuse, sigmas_fuse]
      exact h.sigmas_heardFrom _ _
    · intro heq
      refine eq_of_map_blur_of_sigmas (by rw [hblurs, heq, ← hblurt]) ?_
      rw [sigmas_normalize (.inl hs), sigmas_normalize (.inl ht)]
      exact h.sigmas_lowercaseFrom false

end Variant

/-! ### What fusing keeps -/

/-- Whether a character is what an upsilon sounds like behind an alpha or epsilon. -/
def isLabial (c : Char) : Bool :=
  c == 'β' || c == 'φ'

theorem countP_labial_prepend (c : Char) (s : List Char) :
    (prepend c s).countP isLabial = (c :: s).countP isLabial := by
  rcases prepend_cases c s with h | ⟨hc, -, h⟩ | ⟨r, rfl, rfl, h | ⟨-, h⟩⟩
  · rw [h]
  · rcases hc with rfl | rfl <;> rw [h] <;> rfl
  · rw [h]
    rfl
  · rw [h]
    rfl

theorem countP_labial_fuse (s : List Char) : (fuse s).countP isLabial = s.countP isLabial := by
  induction s with
  | nil => rfl
  | cons c s ih => rw [fuse_cons, countP_labial_prepend, List.countP_cons, List.countP_cons, ih]

theorem count_iota_prepend (c : Char) (s : List Char) :
    (prepend c s).count 'ι' + (c :: s).count 'α' =
      (c :: s).count 'ι' + (prepend c s).count 'α' := by
  have hcount {d : Char} (r : List Char) (hι : d ≠ 'ι') (hα : d ≠ 'α') :
      (d :: r).count 'ι' = r.count 'ι' ∧ (d :: r).count 'α' = r.count 'α' :=
    ⟨List.count_cons_of_ne hι, List.count_cons_of_ne hα⟩
  have hiota (r : List Char) :
      ('ι' :: r).count 'ι' = r.count 'ι' + 1 ∧ ('ι' :: r).count 'α' = r.count 'α' :=
    ⟨List.count_cons_self, List.count_cons_of_ne (by decide)⟩
  have halpha (r : List Char) :
      ('α' :: r).count 'ι' = r.count 'ι' ∧ ('α' :: r).count 'α' = r.count 'α' + 1 :=
    ⟨List.count_cons_of_ne (by decide), List.count_cons_self⟩
  rcases prepend_cases c s with h | ⟨hc, -, h⟩ | ⟨r, rfl, rfl, h | ⟨-, h⟩⟩
  · rw [h]
  · have hne : c ≠ 'ι' ∧ c ≠ 'α' := by rcases hc with rfl | rfl <;> decide
    rw [h, (hcount s hne.1 hne.2).1, (hcount s hne.1 hne.2).2]
  · have hε := hcount (d := 'ε') r (by decide) (by decide)
    rw [h, (halpha _).1, (halpha _).2, (hiota r).1, (hiota r).2, hε.1, hε.2]
    omega
  · rw [h, (halpha _).1, (halpha _).2, (hiota r).1, (hiota r).2]
    omega

/-- An iota is lost in a fused text only together with an alpha. -/
theorem count_iota_fuse (s : List Char) :
    (fuse s).count 'ι' + s.count 'α' = s.count 'ι' + (fuse s).count 'α' := by
  induction s with
  | nil => rfl
  | cons c s ih =>
    have hprepend := count_iota_prepend c (fuse s)
    rw [List.count_cons, List.count_cons] at hprepend
    rw [fuse_cons, List.count_cons, List.count_cons]
    omega

namespace Fuller

variable {b b' : Bool}

theorem refl (s : List Char) : Fuller false s s := by
  induction s with
  | nil => exact .nil
  | cons c s ih => exact .cons c ih

theorem append {x y : List Char} (h : Fuller b s t) (h' : Fuller b' x y) :
    Fuller (b || b') (s ++ x) (t ++ y) := by
  induction h with
  | nil => rwa [Bool.false_or]
  | cons c _ ih => exact ih.cons c
  | iota _ ih => exact ih.iota
  | labial v _ ih => exact ih.labial v

theorem counts (h : Fuller b s t) :
    s.count 'α' = t.count 'α' ∧ t.count 'ι' ≤ s.count 'ι' ∧
      s.countP isLabial ≤ t.countP isLabial ∧
      (b = true → t.count 'ι' < s.count 'ι' ∨ s.countP isLabial < t.countP isLabial) := by
  induction h with
  | nil => exact ⟨rfl, le_rfl, le_rfl, fun h => absurd h (by decide)⟩
  | cons c _ ih =>
    obtain ⟨hα, hι, hlabial, hmarked⟩ := ih
    simp only [List.count_cons, List.countP_cons]
    exact ⟨by omega, by omega, by omega, fun hb => by have := hmarked hb; omega⟩
  | @iota b s t _ ih =>
    obtain ⟨hα, hι, hlabial, -⟩ := ih
    have hcount : ('ι' :: s).count 'ι' = s.count 'ι' + 1 := List.count_cons_self
    refine ⟨(List.count_cons_of_ne (by decide)).trans hα, by omega, hlabial, fun _ => .inl ?_⟩
    omega
  | @labial v b s t _ ih =>
    obtain ⟨hα, hι, hlabial, -⟩ := ih
    have hne : labialSound v ≠ 'α' ∧ labialSound v ≠ 'ι' := by cases v <;> decide
    have hcount : (labialSound v :: t).countP isLabial = t.countP isLabial + 1 := by
      refine List.countP_cons_of_pos ?_
      cases v <;> rfl
    refine ⟨hα.trans (List.count_cons_of_ne hne.1).symm, ?_, by omega, fun _ => .inr (by omega)⟩
    rw [List.count_cons_of_ne hne.2]
    exact hι

theorem eq_of_unmarked (h : Fuller false s t) : s = t := by
  generalize hb : false = b at h
  induction h with
  | nil => rfl
  | cons c _ ih => rw [ih hb]
  | iota => exact absurd hb (by decide)
  | labial => exact absurd hb (by decide)

/-- **Fusing hides no further iota and no missing labial.** -/
theorem fuse_eq_iff (h : Fuller b s t) : fuse s = fuse t ↔ b = false := by
  constructor
  · intro heq
    obtain ⟨hα, hι, hlabial, hmarked⟩ := h.counts
    have hιs := count_iota_fuse s
    have hιt := count_iota_fuse t
    have hs := countP_labial_fuse s
    have ht := countP_labial_fuse t
    rw [heq] at hιs hs
    rw [Bool.eq_false_iff]
    intro hb
    rcases hmarked hb with h | h <;> omega
  · rintro rfl
    rw [h.eq_of_unmarked]

end Fuller

end Catalog.Greek
