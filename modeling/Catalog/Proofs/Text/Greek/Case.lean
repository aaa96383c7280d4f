import Catalog.Proofs.Text.Greek.Words

/-!
# Folding does not see case

Folding reads a text with its capitals and lower-cases it only at the end of a pass. It comes to the
same as lower-casing the text first, with the rule of the final sigma, since every table of letters
lists capitals and small letters alike, and since folding puts letters for letters, so that a sigma
has a letter on either side after a pass just if it had one before. The ohm sign is the one
exception: it becomes a letter only when it is lower-cased.

## Main results

* `Greek.normalize_lowercase_eq_iff`: when folding does not see the case of a text
* `Greek.normalizeText_lowercaseText`: it never does in ASCII and in the Greek letters
-/

namespace Catalog.Greek

/-! ### The ohm sign -/

theorem ohm_mem_of_ohmBehindPair {s : List Char} (h : ohmBehindPair s = true) : ohm ∈ s := by
  induction s with
  | nil => exact absurd h (by decide)
  | cons c s ih =>
    cases s with
    | nil => exact absurd h (by simp [ohmBehindPair])
    | cons d r =>
      rw [ohmBehindPair, Bool.or_eq_true, Bool.and_eq_true, beq_iff_eq] at h
      rcases h with ⟨-, hhead⟩ | h
      · exact List.mem_cons_of_mem _ (List.mem_cons_of_mem _ (List.mem_of_head? hhead))
      · exact List.mem_cons_of_mem _ (ih h)

theorem ohmBehindPair_of_not_mem {s : List Char} (h : ohm ∉ s) : ohmBehindPair s = false := by
  rw [Bool.eq_false_iff]
  exact fun hpair => h (ohm_mem_of_ohmBehindPair hpair)

/-! ### The forms of sigmas -/

theorem stripAccents_map_blur (s : List Char) :
    stripAccents (s.map blur) = (stripAccents s).map blur := by
  simp only [stripAccents, List.map_map]
  refine List.map_congr_left fun c _ => ?_
  simp only [Function.comp_apply]
  by_cases hc : c ∈ letters
  · rw [blur_of_letters hc, blur_of_letters (stripAccent_mem_letters hc)]
  · rw [stripAccent_of_inert hc, stripAccent_of_inert (isInert_blur hc)]

/-- Folding a text in lower case is blind to the forms of its sigmas. -/
theorem map_blur_normalize_congr {s t : List Char} (hs : ∀ c ∈ s, IsLower c)
    (ht : ∀ c ∈ t, IsLower c) (h : s.map blur = t.map blur) :
    (normalize s).map blur = (normalize t).map blur := by
  have hblur (x : List Char) : (fuse (foldSounds (stripAccents (foldSounds x)))).map blur =
      fuse (foldSounds (stripAccents (foldSounds (x.map blur)))) := by
    rw [foldSounds_map_blur, stripAccents_map_blur, foldSounds_map_blur, fuse_map_blur]
  rw [normalize_of_isLower hs, normalize_of_isLower ht, hblur, hblur, h]

/-! ### Case -/

theorem isLower_of_mem_lowercase {s : List Char} {d : Char} (h : d ∈ lowercase s) : IsLower d := by
  rcases mem_lowercaseFrom h with rfl | ⟨c, -, hd⟩
  · decide
  · exact isLower_of_mem_lowerChar hd

/-- **Folding does not see the case of a text, just if no ohm sign hides a voice.** -/
theorem normalize_lowercase_eq_iff {s : List Char}
    (h : needsFolding s = true ∨ ∀ c ∈ s, IsLower c) :
    normalize (lowercase s) = normalize s ↔ ohmBehindPair s = false := by
  have hlower : ∀ c ∈ lowercase s, IsLower c := fun c hc => isLower_of_mem_lowercase hc
  have hblur : (normalize (lowercase s)).map blur = (normalize (s.flatMap lowerChar)).map blur :=
    map_blur_normalize_congr hlower isLower_of_mem_flatMap (map_blur_lowercaseFrom false s)
  have hsigmas : sigmas (normalize (lowercase s)) = sigmas (normalize s) := by
    rw [sigmas_normalize (.inr hlower), lowercase_of_isLower hlower, sigmas_normalize h]
  rw [← (voices_normalize h).eq_iff, ← hblur]
  exact ⟨fun heq => by rw [heq], fun heq => eq_of_map_blur_of_sigmas heq.symm hsigmas⟩

/-- **Case never matters in ASCII and in the Greek letters**: such a text and its lower-case form,
with final sigmas where words end, have one folded form. -/
theorem normalizeText_lowercaseText {s : String}
    (hs : ∀ c ∈ s.toList, c.toNat < 0x80 ∨ 0x386 ≤ c.toNat ∧ c.toNat ≤ 0x3ce) :
    normalizeText (lowercaseText s) = normalizeText s := by
  have hfolding : needsFolding s.toList = true ∨ ∀ c ∈ s.toList, IsLower c := by
    by_cases hfold : needsFolding s.toList = true
    · exact .inl hfold
    · refine .inr fun c hc => ?_
      have hdigraph : ∀ e ∈ digraphs, 0x80 ≤ e.1.toNat ∧ e.1.toNat < 0x386 := by decide
      rcases isLower_or_mem_digraphs_of_mem (Bool.eq_false_iff.mpr hfold) hc with
        hlower | ⟨d, -, hmem⟩
      · exact hlower
      · have hcode : 0x80 ≤ c.toNat ∧ c.toNat < 0x386 := hdigraph _ hmem
        rcases hs c hc with hascii | hgreek <;> omega
  have hohm : ohm ∉ s.toList := by
    intro hmem
    have hcode : ohm.toNat = 0x2126 := by decide
    have := hs ohm hmem
    omega
  have hfolded := (normalize_lowercase_eq_iff hfolding).mpr (ohmBehindPair_of_not_mem hohm)
  simp only [normalizeText, lowercaseText, String.toList_ofList, hfolded]

/-- A final sigma behind an apostrophe, vowels with an accent and with diaeresis, and a pair that
becomes a consonant. -/
theorem normalizeText_lowercaseText_capitals :
    (∀ c ∈ "ΜΑΪ'ΟΣ ΕΎΑ".toList, c.toNat < 0x80 ∨ 0x386 ≤ c.toNat ∧ c.toNat ≤ 0x3ce) ∧
      normalizeText (lowercaseText "ΜΑΪ'ΟΣ ΕΎΑ") = normalizeText "ΜΑΪ'ΟΣ ΕΎΑ" :=
  have hrange : ∀ c ∈ "ΜΑΪ'ΟΣ ΕΎΑ".toList,
      c.toNat < 0x80 ∨ 0x386 ≤ c.toNat ∧ c.toNat ≤ 0x3ce := by decide
  ⟨hrange, normalizeText_lowercaseText hrange⟩

end Catalog.Greek
