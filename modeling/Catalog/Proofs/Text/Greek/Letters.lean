import Catalog.Proofs.Text.LetterCase
import Catalog.Text.Greek

/-!
# The letters that Greek folding looks at

Folding looks at some fifty letters. Every other character is inert: it forms no pair, decides
nothing about a pair in front of it, and is left alone but for its case. Lower-casing keeps what a
letter counts as, and makes no letter of an inert character, with one exception: the ohm sign, which
is inert, becomes an omega.

## Main definitions

* `Greek.letters`: the letters, and `Greek.IsInert`: what is none of them
* `Greek.ohm`: the sign that becomes a letter in lower case
* `Greek.lowerHead`: the first character of a lower-case form, and `Greek.lowerLetter`: that of a
  letter

## Main results

* `Greek.isInert_of_mem_lowerChar`: an inert character other than the ohm sign stays inert
* `Greek.sameRole_lowerHead`: lower-casing keeps what a character counts as in and behind a pair
* `Greek.isVoiced_eq`: what follows a pair, in terms of what it counts as
-/

namespace Catalog.Greek

/-- The letters that folding looks at or makes. -/
def letters : List Char :=
  ['α', 'ά', 'Α', 'Ά', 'ε', 'έ', 'Ε', 'Έ', 'η', 'ή', 'Η', 'Ή', 'ι', 'ί', 'ΐ', 'ϊ', 'Ι', 'Ί', 'Ϊ',
    'ο', 'ό', 'Ο', 'Ό', 'υ', 'ύ', 'ΰ', 'ϋ', 'Υ', 'Ύ', 'Ϋ', 'ω', 'ώ', 'Ω', 'Ώ', 'γ', 'Γ', 'β', 'Β',
    'δ', 'Δ', 'ζ', 'Ζ', 'λ', 'Λ', 'μ', 'Μ', 'ν', 'Ν', 'ρ', 'Ρ', 'τ', 'Τ', 'φ', 'Φ']

/-- A character that folding leaves alone but for its case. -/
def IsInert (c : Char) : Prop :=
  c ∉ letters

instance (c : Char) : Decidable (IsInert c) :=
  inferInstanceAs (Decidable (_ ∉ _))

/-- The ohm sign. It looks like a capital omega but is none. -/
def ohm : Char := Char.ofNat 0x2126

theorem upsilons_eq : upsilons = ['υ', 'ύ', 'Υ', 'Ύ'] := rfl

theorem iotas_eq : iotas = ['ι', 'ί', 'Ι', 'Ί'] := rfl

theorem voiced_eq : voiced =
    ['γ', 'Γ', 'β', 'Β', 'δ', 'Δ', 'ζ', 'Ζ', 'λ', 'Λ', 'μ', 'Μ', 'ν', 'Ν', 'ρ', 'Ρ'] := rfl

theorem vowels_eq : vowels =
    ['α', 'ά', 'Α', 'Ά', 'ε', 'έ', 'Ε', 'Έ', 'η', 'ή', 'Η', 'Ή', 'ι', 'ί', 'ΐ', 'ϊ', 'Ι', 'Ί', 'Ϊ',
      'ο', 'ό', 'Ο', 'Ό', 'υ', 'ύ', 'ΰ', 'ϋ', 'Υ', 'Ύ', 'Ϋ', 'ω', 'ώ', 'Ω', 'Ώ'] := rfl

/-! ### Inert characters -/

theorem opensLabial_of_inert {c : Char} (h : IsInert c) : opensLabial c = false := by
  rw [Bool.eq_false_iff]
  intro hc
  simp only [opensLabial, Bool.or_eq_true, beq_iff_eq] at hc
  rcases hc with ((rfl | rfl) | rfl) | rfl <;> exact absurd h (by decide)

theorem isAlpha_of_inert {c : Char} (h : IsInert c) : isAlpha c = false := by
  rw [Bool.eq_false_iff]
  intro hc
  simp only [isAlpha, Bool.or_eq_true, beq_iff_eq] at hc
  rcases hc with rfl | rfl <;> exact absurd h (by decide)

theorem yieldsToIota_of_inert {c : Char} (h : IsInert c) : yieldsToIota c = false := by
  rw [Bool.eq_false_iff]
  intro hc
  simp only [yieldsToIota, Bool.or_eq_true, beq_iff_eq] at hc
  rcases hc with ((((rfl | rfl) | rfl) | rfl) | rfl) | rfl <;> exact absurd h (by decide)

theorem not_mem_of_inert {c : Char} (h : IsInert c) {l : List Char} (hl : l ⊆ letters) :
    l.contains c = false := by
  rw [Bool.eq_false_iff]
  intro hc
  exact h (hl (List.contains_iff_mem.mp hc))

theorem upsilons_of_inert {c : Char} (h : IsInert c) : upsilons.contains c = false :=
  not_mem_of_inert h (by rw [upsilons_eq]; decide)

theorem iotas_of_inert {c : Char} (h : IsInert c) : iotas.contains c = false :=
  not_mem_of_inert h (by rw [iotas_eq]; decide)

theorem foldLetter_of_inert {c : Char} (h : IsInert c) : foldLetter c = c := by
  unfold foldLetter
  split <;> first | rfl | exact absurd h (by decide)

theorem stripAccent_of_inert {c : Char} (h : IsInert c) : stripAccent c = c := by
  unfold stripAccent
  split <;> first | rfl | exact absurd h (by decide)

theorem stripAccents_of_inert {s : List Char} (hs : ∀ c ∈ s, IsInert c) : stripAccents s = s :=
  (List.map_congr_left fun c hc => stripAccent_of_inert (hs c hc)).trans (List.map_id _)

/-! ### What a character counts as behind a pair -/

/-- A letter that is sounded with the voice. -/
def isSounded (c : Char) : Bool :=
  vowels.contains c || voiced.contains c

/-- A tau, which is sounded in front of a zeta. -/
def isTau (c : Char) : Bool :=
  c == 'τ' || c == 'Τ'

def isZeta (c : Char) : Bool :=
  c == 'ζ' || c == 'Ζ'

theorem isVoiced_eq (next after : Option Char) :
    isVoiced next after = (next.any isSounded || next.any isTau && after.any isZeta) := by
  cases next with
  | none => rfl
  | some c =>
    cases after with
    | none => simp [isVoiced, isSounded, isTau]
    | some d => simp [isVoiced, isSounded, isTau, isZeta]

theorem isSounded_of_inert {c : Char} (h : IsInert c) : isSounded c = false := by
  rw [isSounded, not_mem_of_inert h (by rw [vowels_eq]; decide),
    not_mem_of_inert h (by rw [voiced_eq]; decide)]
  rfl

theorem isTau_of_inert {c : Char} (h : IsInert c) : isTau c = false := by
  rw [Bool.eq_false_iff]
  intro hc
  simp only [isTau, Bool.or_eq_true, beq_iff_eq] at hc
  rcases hc with rfl | rfl <;> exact absurd h (by decide)

theorem isZeta_of_inert {c : Char} (h : IsInert c) : isZeta c = false := by
  rw [Bool.eq_false_iff]
  intro hc
  simp only [isZeta, Bool.or_eq_true, beq_iff_eq] at hc
  rcases hc with rfl | rfl <;> exact absurd h (by decide)

/-! ### Lower-casing -/

/-- The first character of a lower-case form. Only one form has a second one. -/
def lowerHead (c : Char) : Char :=
  (lowerChar c).headD c

theorem lowerChar_eq_cons (c : Char) : lowerChar c = lowerHead c :: (lowerChar c).tail := by
  have hlength := (lowerChar_length_le c).1
  unfold lowerHead
  cases h : lowerChar c with
  | nil => rw [h] at hlength; exact absurd hlength (by decide)
  | cons d r => rfl

theorem lowerHead_mem (c : Char) : lowerHead c ∈ lowerChar c := by
  rw [lowerChar_eq_cons]
  exact List.mem_cons_self ..

/-- The lower-case form of a letter. -/
def lowerLetter : Char → Char
  | 'Α' => 'α' | 'Ά' => 'ά' | 'Ε' => 'ε' | 'Έ' => 'έ' | 'Η' => 'η' | 'Ή' => 'ή' | 'Ι' => 'ι'
  | 'Ί' => 'ί' | 'Ϊ' => 'ϊ' | 'Ο' => 'ο' | 'Ό' => 'ό' | 'Υ' => 'υ' | 'Ύ' => 'ύ' | 'Ϋ' => 'ϋ'
  | 'Ω' => 'ω' | 'Ώ' => 'ώ' | 'Γ' => 'γ' | 'Β' => 'β' | 'Δ' => 'δ' | 'Ζ' => 'ζ' | 'Λ' => 'λ'
  | 'Μ' => 'μ' | 'Ν' => 'ν' | 'Ρ' => 'ρ' | 'Τ' => 'τ' | 'Φ' => 'φ'
  | c => c

theorem lowerChar_of_mem_letters {c : Char} (h : c ∈ letters) : lowerChar c = [lowerLetter c] := by
  have hall : ∀ c ∈ letters, lowerChar c = [lowerLetter c] := by decide
  exact hall c h

theorem lowerHead_of_mem_letters {c : Char} (h : c ∈ letters) : lowerHead c = lowerLetter c := by
  rw [lowerHead, lowerChar_of_mem_letters h]
  rfl

theorem lowerLetter_mem_letters {c : Char} (h : c ∈ letters) : lowerLetter c ∈ letters := by
  have hall : ∀ c ∈ letters, lowerLetter c ∈ letters := by decide
  exact hall c h

theorem isLower_iff_of_mem_letters {c : Char} (h : c ∈ letters) :
    IsLower c ↔ lowerLetter c = c := by
  rw [IsLower, lowerChar_of_mem_letters h, List.singleton_inj]

/-- A character in ASCII or at a distance from the Greek letters is inert. -/
theorem isInert_of_toNat {c : Char} (h : c.toNat < 0x386 ∨ 0x3ce < c.toNat) : IsInert c := by
  have hall : ∀ c ∈ letters, 0x386 ≤ c.toNat ∧ c.toNat ≤ 0x3ce := by decide
  intro hc
  have := hall c hc
  omega

/-- **An inert character other than the ohm sign stays inert in lower case.** -/
theorem isInert_of_mem_lowerChar {c d : Char} (hc : IsInert c) (hohm : c ≠ ohm)
    (h : d ∈ lowerChar c) : IsInert d := by
  rcases mem_lowerChar h with ⟨hc, rfl⟩ | ⟨-, rfl | rfl⟩ | ⟨r, hr, hn, hn80, rfl⟩ | ⟨rfl, -⟩
  · exact isInert_of_toNat (.inl (by have := (toLower_of_ascii hc).1; omega))
  · exact isInert_of_toNat (.inl (by decide))
  · exact isInert_of_toNat (.inl (by decide))
  · -- Few runs have images near the Greek letters; their members are looked at one by one.
    have hruns : ∀ r ∈ lowerRuns, greatestImage r < 0x386 ∨ 0x3ce < r.2 ∨
        r.1.first = 0x2126 ∧ r.1.last = 0x2126 ∨
        ∀ k ≤ r.1.last - r.1.first, IsInert (Char.ofNat (r.1.first + k)) →
          IsInert (Char.ofNat (r.2 + k)) := by decide +kernel
    obtain ⟨hl, hg, -⟩ := CaseRun.contains_iff.mp hn
    have htoNat := toNat_ofNat_imageOf hr hn
    rcases hruns r hr with hfar | hfar | hsign | hnear
    · refine isInert_of_toNat (.inl ?_)
      rw [htoNat, imageOf]
      unfold greatestImage at hfar
      omega
    · refine isInert_of_toNat (.inr ?_)
      rw [htoNat, imageOf]
      omega
    · have hcode : c.toNat = 0x2126 := by omega
      refine absurd ?_ hohm
      rw [ohm, ← hcode, Char.ofNat_toNat]
    · refine hnear (c.toNat - r.1.first) (by omega) ?_
      rwa [Nat.add_sub_cancel' hl, Char.ofNat_toNat]
  · exact hc

/-- Only the ohm sign becomes a letter by lower-casing. -/
theorem lowerHead_cases (c : Char) :
    c = ohm ∨ (IsInert c ∧ IsInert (lowerHead c)) ∨ c ∈ letters := by
  by_cases hc : IsInert c
  · by_cases hohm : c = ohm
    · exact .inl hohm
    · exact .inr (.inl ⟨hc, isInert_of_mem_lowerChar hc hohm (lowerHead_mem c)⟩)
  · exact .inr (.inr (not_not.mp hc))

/-- Lower-casing keeps what a character counts as in a pair and behind one, but for the voice of the
ohm sign. -/
theorem sameRole_lowerHead (c : Char) :
    upsilons.contains (lowerHead c) = upsilons.contains c ∧
      iotas.contains (lowerHead c) = iotas.contains c ∧
      (c ≠ ohm → isSounded (lowerHead c) = isSounded c) ∧
      isTau (lowerHead c) = isTau c ∧ isZeta (lowerHead c) = isZeta c := by
  rcases lowerHead_cases c with rfl | ⟨hc, hd⟩ | hmem
  · decide
  · rw [upsilons_of_inert hc, upsilons_of_inert hd, iotas_of_inert hc, iotas_of_inert hd,
      isSounded_of_inert hc, isSounded_of_inert hd, isTau_of_inert hc, isTau_of_inert hd,
      isZeta_of_inert hc, isZeta_of_inert hd]
    exact ⟨rfl, rfl, fun _ => rfl, rfl, rfl⟩
  · have hall : ∀ c ∈ letters, upsilons.contains (lowerLetter c) = upsilons.contains c ∧
        iotas.contains (lowerLetter c) = iotas.contains c ∧
        isSounded (lowerLetter c) = isSounded c ∧
        isTau (lowerLetter c) = isTau c ∧ isZeta (lowerLetter c) = isZeta c := by
      rw [upsilons_eq, iotas_eq]
      simp only [isSounded, vowels_eq, voiced_eq]
      decide
    obtain ⟨h₁, h₂, h₃, h₄, h₅⟩ := hall c hmem
    rw [lowerHead_of_mem_letters hmem]
    exact ⟨h₁, h₂, fun _ => h₃, h₄, h₅⟩

end Catalog.Greek
