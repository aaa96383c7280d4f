import Catalog.Proofs.Text.AsciiFold
import Catalog.Proofs.Text.Greek.Sigma
import Catalog.Proofs.Text.Greek.Spelling

/-!
# Words in an index and in a query

A word is lower-cased character by character, written in ASCII where it can be, folded, and given a
final sigma before it is indexed; in a query it is folded only. The two forms agree just if the
steps that a query leaves out have nothing to do, and if the word does not hide a voice in an ohm
sign.

## Main definitions

* `Greek.indexForm`: the form of a word in an index
* `Greek.FoldsAlike`: the words with one form in an index and in a query

## Main results

* `Greek.indexForm_eq_iff`: the forms agree just for these words
* `Greek.isPrefix_indexForm_iff`: no form in a query is the beginning of another form in an index
* `Greek.foldsAlike_of_greek`: Greek words that fold alike
-/

namespace Catalog.Greek

/-- The form of a word in an index. -/
def indexForm (s : List Char) : List Char :=
  finalSigma (normalize (foldToAscii (s.flatMap lowerChar)))

/-- A word that has one form in an index and in a query: none of its letters has a plain form in
lower case, its sigmas are such that lower-casing the word gives the last one, and no other one, its
final form, and no ohm sign stands behind a pair that it gives its voice. -/
structure FoldsAlike (s : List Char) : Prop where
  foldToAscii_eq : foldToAscii (s.flatMap lowerChar) = s.flatMap lowerChar
  lowercase_eq : lowercase s = finalSigma (s.flatMap lowerChar)
  ohmBehindPair_eq : ohmBehindPair s = false

instance (s : List Char) : Decidable (FoldsAlike s) :=
  decidable_of_iff
    (foldToAscii (s.flatMap lowerChar) = s.flatMap lowerChar ∧
      lowercase s = finalSigma (s.flatMap lowerChar) ∧ ohmBehindPair s = false)
    ⟨fun h => ⟨h.1, h.2.1, h.2.2⟩, fun h => ⟨h.foldToAscii_eq, h.lowercase_eq, h.ohmBehindPair_eq⟩⟩

theorem isLower_of_mem_flatMap {s : List Char} : ∀ d ∈ s.flatMap lowerChar, IsLower d := by
  intro d hd
  obtain ⟨c, -, hd⟩ := List.mem_flatMap.mp hd
  exact isLower_of_mem_lowerChar hd

/-! ### Characters with plain forms -/

theorem not_isTabled_of_letters {c : Char} (h : c ∈ letters) : ¬ IsTabled c := by
  have hall : ∀ c ∈ letters, 0x370 ≤ c.toNat ∧ c.toNat ≤ 0x3ff := by decide
  exact not_isTabled_of_toNat (hall c h).1 (hall c h).2

/-- A character as the form of a word in an index has them. -/
def IsIndexed (c : Char) : Prop :=
  c.toNat < 0x80 ∨ c ∈ letters ∨ IsLower c ∧ ¬ IsTabled c

theorem IsIndexed.not_isTabled {c : Char} (h : IsIndexed c) : ¬ IsTabled c := by
  rcases h with h | h | ⟨-, h⟩
  · intro htabled
    have := htabled.1
    omega
  · exact not_isTabled_of_letters h
  · exact h

theorem isIndexed_finalSigma : IsIndexed 'ς' :=
  .inr (.inr ⟨by decide, not_isTabled_of_toNat (by decide) (by decide)⟩)

theorem IsIndexed.lowerChar {c d : Char} (h : IsIndexed c) (hd : d ∈ lowerChar c) :
    IsIndexed d := by
  rcases h with h | h | ⟨hlower, h⟩
  · rw [lowerChar_of_ascii h, List.mem_singleton] at hd
    exact .inl (hd ▸ (toLower_of_ascii h).1)
  · rw [lowerChar_of_mem_letters h, List.mem_singleton] at hd
    exact .inr (.inl (hd ▸ lowerLetter_mem_letters h))
  · rw [hlower, List.mem_singleton] at hd
    exact .inr (.inr (hd ▸ ⟨hlower, h⟩))

/-- The form of a word in an index has no character with a plain form. -/
theorem not_isTabled_of_mem_indexForm {s : List Char} {d : Char} (h : d ∈ indexForm s) :
    ¬ IsTabled d := by
  have hplain : ∀ c ∈ foldToAscii (s.flatMap lowerChar), IsIndexed c := by
    intro c hc
    rcases mem_foldToAscii hc with hascii | ⟨hc, htabled⟩
    · exact .inl hascii
    · exact .inr (.inr ⟨isLower_of_mem_flatMap c hc, htabled⟩)
  have hfolded := forall_normalize (fun c hc => .inr (.inl hc)) isIndexed_finalSigma
    (fun c hc d hd => hc.lowerChar hd) hplain
  rcases mem_finalSigma h with rfl | h
  · exact isIndexed_finalSigma.not_isTabled
  · exact (hfolded d h).not_isTabled

/-- A word that does not call for folding is in lower case, digraphs apart. -/
theorem isLower_or_mem_digraphs_of_mem {s : List Char} (hs : needsFolding s = false) {c : Char}
    (hc : c ∈ s) : IsLower c ∨ ∃ d, lowerChar c = [d] ∧ (c, d) ∈ digraphs := by
  obtain ⟨hlow, hupper⟩ := bounds_of_mem_of_not_needsFolding hs hc
  exact isLower_or_mem_digraphs hlow hupper

/-- The form of a word in a query keeps a character with a plain form. -/
theorem exists_isTabled_of_mem {s : List Char} {d : Char} (h : d ∈ s.flatMap lowerChar)
    (hd : IsTabled d) : ∃ e ∈ normalize s, IsTabled e := by
  obtain ⟨c, hc, hdc⟩ := List.mem_flatMap.mp h
  have hinert : IsInert d := fun hmem => not_isTabled_of_letters hmem hd
  by_cases hfold : needsFolding s = true
  · refine ⟨d, ?_, hd⟩
    have hcinert : IsInert c := by
      intro hmem
      rw [lowerChar_of_mem_letters hmem, List.mem_singleton] at hdc
      exact hinert (hdc ▸ lowerLetter_mem_letters hmem)
    have hne : c ≠ 'Σ' := by
      rintro rfl
      have hall : ∀ d ∈ lowerChar 'Σ', d = 'σ' := by decide
      rw [hall d hdc] at hd
      exact not_isTabled_of_toNat (by decide) (by decide) hd
    rw [normalize_of_needsFolding hfold]
    refine mem_fuse_of_inert hinert (mem_foldSounds_of_inert hinert ?_)
    refine mem_lowercaseFrom_of_mem ?_ hne hdc
    refine List.mem_map.mpr ⟨c, mem_foldSounds_of_inert hcinert hc, stripAccent_of_inert hcinert⟩
  · rw [normalize, if_neg hfold]
    rcases isLower_or_mem_digraphs_of_mem (Bool.eq_false_iff.mpr hfold) hc with
      hlower | ⟨e, -, he⟩
    · rw [hlower, List.mem_singleton] at hdc
      exact ⟨c, hc, hdc ▸ hd⟩
    · exact ⟨c, hc, (isTabled_of_mem_digraphs he).1⟩

/-- Without a character that has a plain form, a word that does not call for folding is in lower
case. -/
theorem needsFolding_or_isLower {s : List Char} (h : ∀ d ∈ s.flatMap lowerChar, ¬ IsTabled d) :
    needsFolding s = true ∨ ∀ c ∈ s, IsLower c := by
  by_cases hfold : needsFolding s = true
  · exact .inl hfold
  · refine .inr fun c hc => ?_
    rcases isLower_or_mem_digraphs_of_mem (Bool.eq_false_iff.mpr hfold) hc with
      hlower | ⟨e, he, hmem⟩
    · exact hlower
    · refine absurd (isTabled_of_mem_digraphs hmem).2 (h e ?_)
      exact List.mem_flatMap.mpr ⟨c, hc, he ▸ List.mem_singleton_self e⟩

/-! ### Words without plain forms -/

theorem Respelled.map_blur {b : Bool} {s t : List Char} (h : Respelled b s t) :
    Respelled b (s.map blur) (t.map blur) := by
  induction h with
  | nil => exact .nil
  | cons c h ih => exact ih.cons _
  | omega h ih => exact ih.omega
  | labial ha h ih =>
    have hφ : blur 'φ' = 'φ' := blur_of_ne (by decide)
    have hβ : blur 'β' = 'β' := blur_of_ne (by decide)
    rw [List.map_cons, List.map_cons, List.map_cons, List.map_cons, hφ, hβ,
      blur_of_letters (mem_letters_of_opensLabial ha)]
    exact ih.labial ha

theorem isPlain_blur {c : Char} (h : IsPlain c) : IsPlain (blur c) := by
  unfold blur
  split
  · decide
  · exact h

/-- **Folding a word and folding its lower-case form** differ in the voice of labials, if an ohm
sign hides one, and in the forms of sigmas. -/
theorem voices_normalize {s : List Char} (h : needsFolding s = true ∨ ∀ c ∈ s, IsLower c) :
    Voices (ohmBehindPair s) ((normalize s).map blur)
      ((normalize (s.flatMap lowerChar)).map blur) := by
  have hlowercase : (foldOnce s).map blur =
      ((foldSounds s).flatMap fun c => lowerChar (stripAccent c)).map blur := by
    rw [foldOnce, lowercase, map_blur_lowercaseFrom, stripAccents, List.flatMap_map]
  have hplain : ∀ c ∈ (foldOnce s).map blur, IsPlain c := by
    intro c hc
    obtain ⟨d, hd, rfl⟩ := List.mem_map.mp hc
    exact isPlain_blur (isPlain_of_mem_foldOnce hd)
  have hfirst := (respelled_foldSounds s).map_blur
  rw [← hlowercase] at hfirst
  rw [normalize_eq h, normalize_of_isLower isLower_of_mem_flatMap, ← fuse_map_blur,
    ← fuse_map_blur, ← foldSounds_map_blur, ← foldSounds_map_blur]
  exact hfirst.voices hplain

theorem sigmas_normalize {s : List Char} (h : needsFolding s = true ∨ ∀ c ∈ s, IsLower c) :
    sigmas (normalize s) = sigmas (lowercase s) := by
  rw [normalize_eq h, sigmas_fuse, sigmas_foldSounds, sigmas_foldOnce]

/-- The forms of a word without plain forms are equally long, and they agree just if no ohm sign
hides a voice and the sigmas are as lower-casing gives them. -/
theorem finalSigma_normalize_eq_iff {s : List Char}
    (h : needsFolding s = true ∨ ∀ c ∈ s, IsLower c) :
    (finalSigma (normalize (s.flatMap lowerChar)) = normalize s ↔
      lowercase s = finalSigma (s.flatMap lowerChar) ∧ ohmBehindPair s = false) ∧
    (finalSigma (normalize (s.flatMap lowerChar))).length = (normalize s).length := by
  have hvoices := voices_normalize h
  have hblur := map_blur_finalSigma (normalize (s.flatMap lowerChar))
  have hsigmas : sigmas (finalSigma (normalize (s.flatMap lowerChar))) =
      sigmas (finalSigma (s.flatMap lowerChar)) :=
    sigmas_finalSigma_normalize isLower_of_mem_flatMap
  rw [lowercase_eq_iff (map_blur_finalSigma _), ← sigmas_normalize h, ← hsigmas]
  refine ⟨⟨fun heq => ?_, fun ⟨heq, hohm⟩ => ?_⟩, ?_⟩
  · rw [heq] at hblur ⊢
    exact ⟨rfl, hvoices.eq_iff.mp hblur⟩
  · exact eq_of_map_blur_of_sigmas (hblur.trans (hvoices.eq_iff.mpr hohm).symm) heq.symm
  · rw [← List.length_map (f := blur), hblur, ← hvoices.length_eq, List.length_map]

/-! ### All words -/

/-- If the form of a word in a query is the beginning of its form in an index, then no letter of the
word has a plain form. -/
theorem not_isTabled_of_isPrefix {s : List Char} (h : normalize s <+: indexForm s) :
    ∀ d ∈ s.flatMap lowerChar, ¬ IsTabled d := by
  intro d hd htabled
  obtain ⟨e, he, hetabled⟩ := exists_isTabled_of_mem hd htabled
  exact not_isTabled_of_mem_indexForm (h.subset he) hetabled

/-- **The forms of a word in an index and in a query agree just if the word folds alike.** -/
theorem indexForm_eq_iff {s : List Char} : indexForm s = normalize s ↔ FoldsAlike s := by
  constructor
  · intro h
    have hprefix : normalize s <+: indexForm s := ⟨[], by rw [List.append_nil, h]⟩
    have htabled := not_isTabled_of_isPrefix hprefix
    have hascii := foldToAscii_eq_self_iff.mpr htabled
    rw [indexForm, hascii] at h
    obtain ⟨hlowercase, hohm⟩ :=
      (finalSigma_normalize_eq_iff (needsFolding_or_isLower htabled)).1.mp h
    exact ⟨hascii, hlowercase, hohm⟩
  · rintro ⟨hascii, hlowercase, hohm⟩
    have htabled := foldToAscii_eq_self_iff.mp hascii
    rw [indexForm, hascii]
    exact (finalSigma_normalize_eq_iff (needsFolding_or_isLower htabled)).1.mpr ⟨hlowercase, hohm⟩

/-- **No form in a query is the beginning of another form of the word in an index.** -/
theorem isPrefix_indexForm_iff {s : List Char} : normalize s <+: indexForm s ↔ FoldsAlike s := by
  rw [← indexForm_eq_iff]
  refine ⟨fun h => ?_, fun h => h ▸ List.prefix_rfl⟩
  have htabled := not_isTabled_of_isPrefix h
  have hlength := (finalSigma_normalize_eq_iff (needsFolding_or_isLower htabled)).2
  rw [← foldToAscii_eq_self_iff.mpr htabled] at hlength
  refine (h.eq_of_length ?_).symm
  rw [indexForm, hlength]

/-! ### Words that fold alike -/

/-- A word of Greek letters folds alike if its sigmas are as they should be, and no ohm sign is in
the way. -/
theorem foldsAlike_of_greek {s : List Char}
    (hs : ∀ d ∈ s.flatMap lowerChar, 0x370 ≤ d.toNat ∧ d.toNat ≤ 0x3ff)
    (hlowercase : lowercase s = finalSigma (s.flatMap lowerChar))
    (hohm : ohmBehindPair s = false) : FoldsAlike s where
  foldToAscii_eq :=
    foldToAscii_eq_self_iff.mpr fun d hd => not_isTabled_of_toNat (hs d hd).1 (hs d hd).2
  lowercase_eq := hlowercase
  ohmBehindPair_eq := hohm

end Catalog.Greek
