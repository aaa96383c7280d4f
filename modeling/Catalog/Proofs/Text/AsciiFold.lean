import Catalog.Proofs.Text.LetterCase
import Catalog.Text.AsciiFold

/-!
# Plain forms and lower case

A text in its plain form holds no character of the table. Below the Greek letters, a character that
is neither in lower case nor a capital is one of a few digraphs, which are in the table as their
lower-case forms are.

## Main definitions

* `IsTabled`: the characters with a plain form

## Main results

* `foldToAscii_eq_self_iff`: which texts are their own plain forms
* `isLower_or_mem_digraphs`: characters below the Greek letters that are no capitals
-/

namespace Catalog

/-- A character outside ASCII that has a plain form. -/
def IsTabled (c : Char) : Prop :=
  0x80 ≤ c.toNat ∧ (asciiForm c).isSome

/-- Plain forms are in ASCII. -/
theorem toNat_lt_of_mem_asciiForm {c d : Char} {f : String} (h : asciiForm c = some f)
    (hd : d ∈ f.toList) : d.toNat < 0x80 := by
  have hall : ∀ e ∈ asciiForms, ∀ d ∈ e.1.toList, d.toNat < 0x80 := by decide +kernel
  obtain ⟨e, he, rfl⟩ := Option.map_eq_some_iff.mp h
  exact hall e (List.mem_of_find?_eq_some he) d hd

/-- The table has no character near the Greek letters. -/
theorem exists_sources : ∀ e ∈ asciiForms,
    ∃ l, e.2 = String.ofList l ∧ ∀ c ∈ l, c.toNat < 0x370 ∨ 0x3ff < c.toNat := by
  unfold asciiForms
  repeat' refine List.forall_mem_cons.mpr ⟨⟨_, rfl, by decide⟩, ?_⟩
  exact List.forall_mem_nil _

theorem not_isTabled_of_toNat {c : Char} (hl : 0x370 ≤ c.toNat) (hg : c.toNat ≤ 0x3ff) :
    ¬ IsTabled c := by
  rintro ⟨-, hsome⟩
  obtain ⟨f, hf⟩ := Option.isSome_iff_exists.mp hsome
  obtain ⟨e, he, -⟩ := Option.map_eq_some_iff.mp hf
  obtain ⟨l, hsources, hall⟩ := exists_sources e (List.mem_of_find?_eq_some he)
  have hmem : c ∈ e.2.toList := by simpa using List.find?_some he
  rw [hsources, String.toList_ofList] at hmem
  have := hall c hmem
  omega

theorem isTabled_of_mem {c : Char} {f : String} {l : List Char}
    (h : (f, String.ofList l) ∈ asciiForms) (hc : c ∈ l) (h80 : 0x80 ≤ c.toNat) : IsTabled c := by
  refine ⟨h80, ?_⟩
  rw [asciiForm, Option.isSome_map, List.find?_isSome]
  exact ⟨_, h, by simpa using hc⟩

theorem foldToAscii_cons_of_not_isTabled {c : Char} (h : ¬ IsTabled c) (s : List Char) :
    foldToAscii (c :: s) = c :: foldToAscii s := by
  rw [foldToAscii, List.flatMap_cons, ← foldToAscii]
  by_cases hc : c.toNat < 0x80
  · rw [if_pos hc]
    rfl
  · have hnone : asciiForm c = none := by
      by_contra hsome
      exact h ⟨by omega, Option.isSome_iff_ne_none.mpr hsome⟩
    rw [if_neg hc, hnone]
    rfl

/-- A character of a plain form is in ASCII, or it is one of the text that has no plain form. -/
theorem mem_foldToAscii {s : List Char} {d : Char} (h : d ∈ foldToAscii s) :
    d.toNat < 0x80 ∨ d ∈ s ∧ ¬ IsTabled d := by
  obtain ⟨c, hc, hd⟩ := List.mem_flatMap.mp h
  split at hd
  · next hascii =>
    rw [List.mem_singleton.mp hd]
    exact .inl hascii
  · split at hd
    · next f hf => exact .inl (toNat_lt_of_mem_asciiForm hf hd)
    · next hnone =>
      rw [List.mem_singleton.mp hd]
      refine .inr ⟨hc, fun htabled => ?_⟩
      rw [IsTabled, hnone] at htabled
      exact absurd htabled.2 (by decide)

/-- **A text is its own plain form just if no character of it has another one.** -/
theorem foldToAscii_eq_self_iff {s : List Char} : foldToAscii s = s ↔ ∀ c ∈ s, ¬ IsTabled c := by
  constructor
  · intro h c hc htabled
    rw [← h] at hc
    rcases mem_foldToAscii hc with hascii | ⟨-, hnot⟩
    · have := htabled.1
      omega
    · exact hnot htabled
  · intro h
    induction s with
    | nil => rfl
    | cons c s ih =>
      rw [List.forall_mem_cons] at h
      rw [foldToAscii_cons_of_not_isTabled h.1, ih h.2]

/-! ### Digraphs -/

/-- Digraphs of a capital and a small letter, each with its lower-case form. -/
def digraphs : List (Char × Char) :=
  [('ǅ', 'ǆ'), ('ǈ', 'ǉ'), ('ǋ', 'ǌ'), ('ǲ', 'ǳ')]

/-- The entries of the digraphs in the table. -/
theorem digraphs_subset_asciiForms :
    [("Dz", String.ofList ['ǅ', 'ǲ']), ("dz", String.ofList ['ǆ', 'ǳ', 'ʣ', 'ʥ']),
      ("Lj", String.ofList ['ǈ']), ("lj", String.ofList ['ǉ']), ("Nj", String.ofList ['ǋ']),
      ("nj", String.ofList ['ǌ'])] ⊆ asciiForms := by
  intro e he
  simp only [List.mem_cons, List.not_mem_nil, or_false] at he
  rcases he with rfl | rfl | rfl | rfl | rfl | rfl
  all_goals
    unfold asciiForms
    repeat (first | exact List.mem_cons_self .. | apply List.mem_cons_of_mem)

theorem isTabled_of_mem_digraphs {e : Char × Char} (he : e ∈ digraphs) :
    IsTabled e.1 ∧ IsTabled e.2 := by
  have hsub := digraphs_subset_asciiForms
  simp only [List.cons_subset, List.nil_subset, and_true] at hsub
  obtain ⟨hDz, hdz, hLj, hlj, hNj, hnj⟩ := hsub
  simp only [digraphs, List.mem_cons, List.not_mem_nil, or_false] at he
  rcases he with rfl | rfl | rfl | rfl
  · exact ⟨isTabled_of_mem hDz (by decide) (by decide), isTabled_of_mem hdz (by decide) (by decide)⟩
  · exact ⟨isTabled_of_mem hLj (by decide) (by decide), isTabled_of_mem hlj (by decide) (by decide)⟩
  · exact ⟨isTabled_of_mem hNj (by decide) (by decide), isTabled_of_mem hnj (by decide) (by decide)⟩
  · exact ⟨isTabled_of_mem hDz (by decide) (by decide), isTabled_of_mem hdz (by decide) (by decide)⟩

/-- **Below the Greek letters**, what is no capital is in lower case, or it is a digraph. -/
theorem isLower_or_mem_digraphs {c : Char} (hc : c.toNat < 0x386)
    (hupper : isUppercase c = false) : IsLower c ∨ ∃ d, lowerChar c = [d] ∧ (c, d) ∈ digraphs := by
  have hne : ∀ {d : Char}, isUppercase d = true → c ≠ d := by
    rintro d hd rfl
    rw [hupper] at hd
    exact absurd hd (by decide)
  have hmem : ∃ d, d ∈ lowerChar c := List.exists_mem_of_length_pos (lowerChar_length_le c).1
  obtain ⟨d, hd⟩ := hmem
  rcases mem_lowerChar hd with ⟨hascii, -⟩ | ⟨hdotted, -⟩ | ⟨r, hr, hn, -, -⟩ | ⟨-, hlower⟩
  · have hall : ∀ n < 0x80, isUppercase (Char.ofNat n) = true ∨ IsLower (Char.ofNat n) := by
      decide +kernel
    have hcode := hall c.toNat hascii
    rw [Char.ofNat_toNat] at hcode
    exact .inl (hcode.resolve_left fun h => hne h rfl)
  · exact absurd hdotted (hne (by decide))
  · have hall : ∀ r ∈ lowerRuns, r.1.first < 0x386 → ∀ k ≤ r.1.last - r.1.first,
        r.1.contains (r.1.first + k) = true → isUppercase (Char.ofNat (r.1.first + k)) = true ∨
          ∃ e ∈ digraphs, e.1 = Char.ofNat (r.1.first + k) ∧ lowerChar e.1 = [e.2] := by
      decide +kernel
    obtain ⟨hl, hg, -⟩ := CaseRun.contains_iff.mp hn
    have hcode := hall r hr (by omega) (c.toNat - r.1.first) (by omega)
    rw [Nat.add_sub_cancel' hl, Char.ofNat_toNat] at hcode
    obtain ⟨e, he, rfl, hlower⟩ := (hcode hn).resolve_left fun h => hne h rfl
    exact .inr ⟨e.2, hlower, he⟩
  · exact .inl hlower

end Catalog
