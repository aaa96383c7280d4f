import Catalog.Proofs.Text.Analyzer
import Mathlib.Data.List.Induction

/-!
# Lower case as a whole and letter by letter

A text is lower-cased as a whole by one rule more than its characters are: a capital sigma becomes a
final one at the end of a word. The rule looks at the nearest letters on both sides, past what is
ignored for case. The one on the left is carried along, and is read off here from the text that has
been passed, so that the rule can be said of a sigma and what stands around it. The standard
analyzer lower-cases a word letter by letter and a literal as a whole, and the two agree just for
the texts in which no sigma is under the rule.

## Main definitions

* `HasFinalSigma`: a text in which a capital sigma ends a word

## Main results

* `lowercase_eq_flatMap_iff`: when the two ways of lower-casing agree
* `IsShortWord.analyze_standard_eq_foldLiteral_iff`: when a word is folded as a literal as it is
  indexed
-/

namespace Catalog

/-- A capital sigma ends a word: a letter comes before it and none behind it, characters that are
ignored for case apart. -/
def HasFinalSigma (s : List Char) : Prop :=
  ∃ a b, s = a ++ 'Σ' :: b ∧ casedNext a.reverse = true ∧ casedNext b = false

/-! ### What lower-casing carries along -/

/-- Whether a letter with case came last, after some more characters. -/
def inWordAfter (inWord : Bool) (s : List Char) : Bool :=
  s.foldl (fun w c => if isCaseIgnorable c then w else isCased c) inWord

@[simp] theorem inWordAfter_nil (inWord : Bool) : inWordAfter inWord [] = inWord := rfl

@[simp] theorem inWordAfter_cons (inWord : Bool) (c : Char) (s : List Char) :
    inWordAfter inWord (c :: s) =
      inWordAfter (if isCaseIgnorable c then inWord else isCased c) s := rfl

/-- The letter that came last is the next one in the other direction. -/
theorem inWordAfter_false (s : List Char) : inWordAfter false s = casedNext s.reverse := by
  induction s using List.reverseRecOn with
  | nil => rfl
  | append_singleton s c ih =>
    rw [List.reverse_append, List.reverse_singleton, List.singleton_append, Greek.casedNext_cons,
      ← ih, inWordAfter, List.foldl_append]
    rfl

/-- A property of what stands around the occurrences of a character, at the first character and
behind it. -/
theorem forall_cons_eq_append_cons_iff {P : List Char → List Char → Prop} {c d : Char}
    {s : List Char} : (∀ a b, c :: s = a ++ d :: b → P a b) ↔
      (c = d → P [] s) ∧ ∀ a b, s = a ++ d :: b → P (c :: a) b := by
  constructor
  · intro h
    refine ⟨fun heq => h [] s (by rw [heq]; rfl), fun a b heq => h (c :: a) b ?_⟩
    rw [heq, List.cons_append]
  · rintro ⟨hhead, htail⟩ a b heq
    cases a with
    | nil =>
      obtain ⟨rfl, rfl⟩ := List.cons.inj heq
      exact hhead rfl
    | cons e a =>
      obtain ⟨rfl, rfl⟩ := List.cons.inj heq
      exact htail a b rfl

/-- Lower-casing what follows a text gives the forms of its characters, just if each sigma with a
letter in front of it has one behind it. -/
theorem lowercaseFrom_eq_flatMap_iff {inWord : Bool} {s : List Char} :
    lowercaseFrom inWord s = s.flatMap lowerChar ↔
      ∀ a b, s = a ++ 'Σ' :: b → inWordAfter inWord a = true → casedNext b = true := by
  induction s generalizing inWord with
  | nil => exact iff_of_true rfl fun a b h => absurd h (by simp)
  | cons c s ih =>
    rw [forall_cons_eq_append_cons_iff (P := fun a b =>
      inWordAfter inWord a = true → casedNext b = true), inWordAfter_nil]
    simp only [inWordAfter_cons]
    rw [← ih, lowercaseFrom, List.flatMap_cons]
    by_cases hsigma : c = 'Σ'
    · have hsmall : lowerChar 'Σ' = ['σ'] := by decide
      rw [if_pos hsigma, hsigma, hsmall, List.singleton_append, List.singleton_append,
        List.cons.injEq, imp_iff_right rfl]
      refine and_congr_left fun _ => ?_
      cases inWord <;> cases casedNext s <;> simp
    · rw [if_neg hsigma, List.append_cancel_left_eq, and_iff_right fun h => absurd h hsigma]

/-- **A text is lower-cased as its characters are**, just if no sigma ends a word. -/
theorem lowercase_eq_flatMap_iff {s : List Char} :
    lowercase s = s.flatMap lowerChar ↔ ¬ HasFinalSigma s := by
  rw [lowercase, lowercaseFrom_eq_flatMap_iff, HasFinalSigma]
  simp only [inWordAfter_false]
  push Not
  simp only [ne_eq, Bool.not_eq_false]

instance (s : List Char) : Decidable (HasFinalSigma s) :=
  decidable_of_iff (¬ lowercase s = s.flatMap lowerChar)
    (by rw [lowercase_eq_flatMap_iff, not_not])

/-! ### Words -/

namespace IsShortWord

variable {w : String}

/-- **The term of a word** in standard analysis is the word in lower case, letter by letter. -/
theorem analyze_standard (hw : IsShortWord w) (hne : w ≠ "") :
    Analyzer.standard.analyze w = [lowerToken w] := by
  rw [hw.analyze_eq hne]
  rfl

theorem foldLiteral_standard_eq_iff :
    Analyzer.standard.foldLiteral w = lowerToken w ↔ ¬ HasFinalSigma w.toList := by
  rw [Analyzer.foldLiteral, lowercaseText, lowerToken, String.ofList_inj, lowercase_eq_flatMap_iff]

/-- **A word is folded as a literal as it is indexed** by the standard analyzer, just if it is not
empty and no sigma ends it, or ends a part of it in front of a character without case. A word that
is not empty is indexed as one term in any case, and in this the literal differs from it in the
forms of sigmas at most. -/
theorem analyze_standard_eq_foldLiteral_iff (hw : IsShortWord w) :
    (Analyzer.standard.analyze w = [Analyzer.standard.foldLiteral w] ↔
        w ≠ "" ∧ ¬ HasFinalSigma w.toList) ∧
      (w ≠ "" → ∃ t, Analyzer.standard.analyze w = [t] ∧
        t.toList.map blur = (Analyzer.standard.foldLiteral w).toList.map blur) := by
  constructor
  · by_cases hne : w = ""
    · rw [hne, analyze_empty]
      exact iff_of_false (List.cons_ne_nil _ _).symm fun h => h.1 rfl
    · rw [hw.analyze_standard hne, and_iff_right hne, List.singleton_inj, eq_comm,
        foldLiteral_standard_eq_iff]
  · intro hne
    refine ⟨lowerToken w, hw.analyze_standard hne, ?_⟩
    rw [lowerToken, Analyzer.foldLiteral, lowercaseText, String.toList_ofList, String.toList_ofList,
      lowercase, map_blur_lowercaseFrom]

/-- A sigma at the beginning of a word does not end one. -/
theorem analyze_standard_eq_foldLiteral_iff_sophia : IsShortWord "ΣΟΦΊΑ" ∧
    Analyzer.standard.analyze "ΣΟΦΊΑ" = [Analyzer.standard.foldLiteral "ΣΟΦΊΑ"] :=
  have hw : IsShortWord "ΣΟΦΊΑ" := by decide +kernel
  ⟨hw, hw.analyze_standard_eq_foldLiteral_iff.1.mpr (by decide +kernel)⟩

/-- A street in capitals is indexed without the final sigma that its literal has. -/
theorem analyze_odos_ne : IsShortWord "ΟΔΟΣ" ∧ Analyzer.standard.analyze "ΟΔΟΣ" = ["οδοσ"] ∧
    Analyzer.standard.foldLiteral "ΟΔΟΣ" = "οδος" := by
  decide +kernel

end IsShortWord

end Catalog
