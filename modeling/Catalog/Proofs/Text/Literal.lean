import Catalog.Proofs.Text.Greek.Sigma
import Catalog.Text.Analyzer

/-!
# Folded literals

A literal is folded as a whole before it is compared. The words of a text are folded each on its
own, so nothing is to be lost or to come in that would be taken for something else: a word stays
one, and no wildcard is added.

## Main results

* `Analyzer.forall_foldLiteral`: what lower-casing keeps, folding keeps
* `Analyzer.isBlank_foldLiteral`, `Analyzer.foldLiteral_eq_empty_iff`: a folded word is a word
* `Analyzer.not_mem_foldLiteral`: no ASCII character but a letter is added
-/

namespace Catalog

/-! ### Lower case -/

/-- No image of a run is blank. -/
theorem disjoint_blank_of_mem {r : CaseRun × Nat} (hr : r ∈ lowerRuns) {b : Nat × Nat}
    (hb : b ∈ blankClass.ranges) : greatestImage r < b.1 ∨ b.2 < r.2 := by
  have h : ∀ r ∈ lowerRuns, ∀ b ∈ blankClass.ranges, greatestImage r < b.1 ∨ b.2 < r.2 := by
    decide +kernel
  exact h r hr b hb

/-- Only from blanks do blanks come. -/
theorem isBlank_of_mem_lowerChar {c d : Char} (hd : d ∈ lowerChar c) (hc : isBlank c = false) :
    isBlank d = false := by
  rcases mem_lowerChar hd with ⟨hascii, rfl⟩ | ⟨-, rfl | rfl⟩ | ⟨r, hr, hn, -, rfl⟩ | ⟨rfl, -⟩
  · have h : ∀ n < 0x80, isBlank (Char.ofNat n) = false →
        isBlank (Char.ofNat n).toLower = false := by decide
    exact forall_ascii (p := fun c => isBlank c = false → isBlank c.toLower = false) h hascii hc
  · decide
  · decide
  · rw [Bool.eq_false_iff]
    intro hblank
    obtain ⟨b, hb, hl, hg⟩ := CharClass.contains_iff.mp hblank
    obtain ⟨hfirst, hlast, -⟩ := CaseRun.contains_iff.mp hn
    have hdisjoint := disjoint_blank_of_mem hr hb
    rw [toNat_ofNat_imageOf hr hn, imageOf] at hl hg
    rw [greatestImage] at hdisjoint
    omega
  · exact hc

/-- An ASCII character that is no letter comes from itself only. -/
theorem eq_of_mem_lowerChar {c d : Char} (hascii : d.toNat < 0x80) (hletter : d.isAlpha = false)
    (hd : d ∈ lowerChar c) : d = c := by
  rcases mem_lowerChar hd with ⟨hc, rfl⟩ | ⟨-, rfl | rfl⟩ | ⟨r, hr, hn, hc, rfl⟩ | ⟨rfl, -⟩
  · have h : ∀ n < 0x80, (Char.ofNat n).toLower.isAlpha = false →
        (Char.ofNat n).toLower = Char.ofNat n := by decide
    exact forall_ascii (p := fun c => c.toLower.isAlpha = false → c.toLower = c) h hc hletter
  · cases hletter
  · exact absurd hascii (by decide)
  · rw [toNat_ofNat_imageOf hr hn] at hascii
    rw [imageOf_eq_of_lt hr hn hc hascii] at hletter
    exact absurd hletter (by decide)
  · rfl

theorem lowercaseFrom_eq_nil_iff {inWord : Bool} {s : List Char} :
    lowercaseFrom inWord s = [] ↔ s = [] := by
  cases s with
  | nil => exact iff_of_true rfl rfl
  | cons c s =>
    refine iff_of_false (fun h => ?_) (List.cons_ne_nil _ _)
    rw [lowercaseFrom, List.append_eq_nil_iff] at h
    have hlength := (lowerChar_length_le c).1
    split at h
    · exact List.cons_ne_nil _ _ h.1
    · rw [h.1] at hlength
      exact absurd hlength (by decide)

theorem Greek.normalize_eq_nil_iff {s : List Char} : normalize s = [] ↔ s = [] := by
  by_cases h : needsFolding s = true
  · rw [normalize_of_needsFolding h, fuse_eq_nil_iff, foldSounds_eq_nil_iff, foldOnce, lowercase,
      lowercaseFrom_eq_nil_iff, stripAccents, List.map_eq_nil_iff, foldSounds_eq_nil_iff]
  · rw [normalize, if_neg h]

namespace Analyzer

variable {w : String}

/-- **What lower-casing keeps, folding keeps**, if the Greek letters have it. -/
theorem forall_foldLiteral {p : Char → Prop} (hletters : ∀ c ∈ Greek.letters, p c)
    (hsigma : p 'ς') (hlower : ∀ c, p c → ∀ d ∈ lowerChar c, p d) (a : Analyzer)
    (hw : ∀ c ∈ w.toList, p c) : ∀ c ∈ (a.foldLiteral w).toList, p c := by
  have hlowercase : ∀ c ∈ (lowercaseText w).toList, p c := by
    rw [lowercaseText, String.toList_ofList]
    intro d hd
    rcases mem_lowercaseFrom hd with rfl | ⟨c, hc, hd⟩
    · exact hsigma
    · exact hlower c (hw c hc) d hd
  cases a with
  | standard => exact hlowercase
  | greek =>
    rw [foldLiteral, Greek.normalizeText, String.toList_ofList]
    exact Greek.forall_normalize hletters hsigma hlower hw
  | stemmed l => exact hlowercase

/-- **A folded word has no blanks.** -/
theorem isBlank_foldLiteral (a : Analyzer) (hw : ∀ c ∈ w.toList, isBlank c = false) :
    ∀ c ∈ (a.foldLiteral w).toList, isBlank c = false :=
  a.forall_foldLiteral (by decide) (by decide) (fun _ hc _ hd => isBlank_of_mem_lowerChar hd hc) hw

/-- **A folded word is not empty.** -/
theorem foldLiteral_eq_empty_iff (a : Analyzer) : a.foldLiteral w = "" ↔ w = "" := by
  have hlowercase : lowercaseText w = "" ↔ w = "" := by
    rw [← String.toList_eq_nil_iff, lowercaseText, String.toList_ofList, lowercase,
      lowercaseFrom_eq_nil_iff, String.toList_eq_nil_iff]
  cases a with
  | standard => exact hlowercase
  | greek =>
    rw [← String.toList_eq_nil_iff, foldLiteral, Greek.normalizeText, String.toList_ofList,
      Greek.normalize_eq_nil_iff, String.toList_eq_nil_iff]
  | stemmed l => exact hlowercase

/-- **Folding adds no ASCII character but letters**, such as a wildcard. -/
theorem not_mem_foldLiteral (a : Analyzer) {d : Char} (hascii : d.toNat < 0x80)
    (hletter : d.isAlpha = false) (hw : d ∉ w.toList) : d ∉ (a.foldLiteral w).toList := by
  have hletters : ∀ c ∈ Greek.letters, 0x80 ≤ c.toNat := by decide
  have hkept : ∀ c ∈ (a.foldLiteral w).toList, c ≠ d := by
    refine a.forall_foldLiteral (fun c hc => ?_) ?_ (fun c hc e he => ?_) fun c hc => ?_
    · rintro rfl
      exact absurd (hletters c hc) (by omega)
    · rintro rfl
      exact absurd hascii (by decide)
    · rintro rfl
      exact hc (eq_of_mem_lowerChar hascii hletter he).symm
    · rintro rfl
      exact hw hc
  exact fun hd => hkept d hd rfl

end Analyzer

end Catalog
