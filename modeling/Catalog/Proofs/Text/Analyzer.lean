import Catalog.Proofs.Text.Blank
import Catalog.Proofs.Text.Greek.Words
import Catalog.Proofs.Text.Literal
import Catalog.Proofs.Text.Regex.States
import Catalog.Text.Analyzer
import Mathlib.Data.String.Basic

/-!
# Single words in an analyzer

A text of letters and digits that is not too long is one word. The Greek analyzer makes at most one
term of it, the form of the word in an index, and a literal that is the word itself is folded to its
form in a query; so the two agree just for the words that fold alike.

## Main definitions

* `IsShortWord`: the words that are indexed

## Main results

* `IsShortWord.analyze_greek`: the term of a word
* `IsShortWord.analyze_greek_eq_foldLiteral_iff`: when it is the folded word
* `IsShortWord.analyze_voila`: a word of which it is not
* `IsShortWord.any_accepts_analyze_greek_iff`: when the expression of the folded word matches it
* `IsShortWord.hasFewStates`: the expression of the folded word can be searched for
-/

namespace Catalog

/-- A text of letters and digits that is short enough to be indexed. -/
structure IsShortWord (w : String) : Prop where
  isAlphanumeric : ∀ c ∈ w.toList, isAlphanumeric c = true
  isShort : w.utf8ByteSize < tokenByteLimit

instance (w : String) : Decidable (IsShortWord w) :=
  decidable_of_iff ((∀ c ∈ w.toList, isAlphanumeric c = true) ∧ w.utf8ByteSize < tokenByteLimit)
    ⟨fun h => ⟨h.1, h.2⟩, fun h => ⟨h.isAlphanumeric, h.isShort⟩⟩

/-! ### Letters and digits -/

theorem disjoint_blank_of_mem_alphanumeric {r : Nat × Nat} (hr : r ∈ alphanumericClass.ranges) :
    ∀ b ∈ blankClass.ranges, r.2 < b.1 ∨ b.2 < r.1 := by
  have h : ∀ r ∈ alphanumericClass.ranges, ∀ b ∈ blankClass.ranges, r.2 < b.1 ∨ b.2 < r.1 := by
    decide +kernel
  exact h r hr

/-- A letter or digit is not blank. -/
theorem isBlank_of_isAlphanumeric {c : Char} (h : isAlphanumeric c = true) : isBlank c = false := by
  obtain ⟨r, hr, hl, hg⟩ := CharClass.contains_iff.mp h
  rw [Bool.eq_false_iff]
  intro hb
  obtain ⟨b, hb, hbl, hbg⟩ := CharClass.contains_iff.mp hb
  rcases disjoint_blank_of_mem_alphanumeric hr b hb with hlt | hlt <;> omega

namespace IsShortWord

variable {w : String}

theorem isBlank (hw : IsShortWord w) : ∀ c ∈ w.toList, isBlank c = false :=
  fun c hc => isBlank_of_isAlphanumeric (hw.isAlphanumeric c hc)

/-- A word without separators is a word, or nothing if it is empty. -/
theorem wordsBy_eq {isSep : Char → Bool} (h : ∀ c ∈ w.toList, isSep c = false) (hne : w ≠ "") :
    (wordsBy isSep w.toList).map String.ofList = [w] := by
  have hempty : w.toList.isEmpty = false := by
    rw [Bool.eq_false_iff, Ne, List.isEmpty_iff, String.toList_eq_nil_iff]
    exact hne
  rw [wordsBy, pieces_of_forall h, List.filter_cons_of_pos (by rw [hempty]; rfl), List.filter_nil,
    List.map_singleton, String.ofList_toList]

/-- **An analyzer makes at most one term of a word.** -/
theorem analyze_eq (hw : IsShortWord w) (hne : w ≠ "") (a : Analyzer) :
    a.analyze w = (a.term? (lowerToken w)).toList := by
  have hwords : alphanumericWords w = [w] :=
    wordsBy_eq (fun c hc => by rw [hw.isAlphanumeric c hc]; rfl) hne
  rw [Analyzer.analyze, Analyzer.tokens, hwords]
  simp only [List.zipIdx_cons, List.zipIdx_nil, List.filterMap_cons, List.filterMap_nil,
    if_pos hw.isShort]
  cases a.term? (lowerToken w) <;> rfl

theorem analyze_empty (a : Analyzer) : a.analyze "" = [] := rfl

theorem term?_greek (w : String) :
    Analyzer.greek.term? (lowerToken w) =
      if stopWords.contains (String.ofList (Greek.indexForm w.toList)) then none
      else some (String.ofList (Greek.indexForm w.toList)) := by
  rw [Analyzer.term?, lowerToken, greekToken, String.toList_ofList, String.toList_ofList]
  rfl

/-- **The term of a word** in Greek analysis is the form of the word in an index, unless the word is
dropped. -/
theorem analyze_greek (hw : IsShortWord w) : Analyzer.greek.analyze w = [] ∨
    Analyzer.greek.analyze w = [String.ofList (Greek.indexForm w.toList)] := by
  by_cases hne : w = ""
  · rw [hne]
    exact .inl (analyze_empty _)
  · rw [hw.analyze_eq hne, term?_greek]
    split
    · exact .inl rfl
    · exact .inr rfl

/-- **The term of a word is the folded word** just if the word folds alike. -/
theorem analyze_greek_eq_foldLiteral_iff (hw : IsShortWord w) :
    Analyzer.greek.analyze w = [] ∨
        Analyzer.greek.analyze w = [Analyzer.greek.foldLiteral w] ↔
      Analyzer.greek.analyze w = [] ∨ Greek.FoldsAlike w.toList := by
  rcases hw.analyze_greek with hnil | hterm
  · exact iff_of_true (.inl hnil) (.inl hnil)
  · have hcons : Analyzer.greek.analyze w ≠ [] := by
      rw [hterm]
      exact List.cons_ne_nil _ _
    rw [or_iff_right hcons, or_iff_right hcons, hterm, List.singleton_inj, Analyzer.foldLiteral,
      Greek.normalizeText, String.ofList_inj, Greek.indexForm_eq_iff]

/-- A French word is indexed without its accent and folded with it. -/
theorem analyze_voila : IsShortWord "voilà" ∧ Analyzer.greek.analyze "voilà" = ["voila"] ∧
    Analyzer.greek.foldLiteral "voilà" = "voilà" := by
  decide +kernel

/-- A word that folds alike is dropped if its folded form is a stop word. -/
theorem analyze_greek_eq_nil_iff (hw : IsShortWord w) (hne : w ≠ "")
    (h : Greek.FoldsAlike w.toList) :
    Analyzer.greek.analyze w = [] ↔
      stopWords.contains (Analyzer.greek.foldLiteral w) = true := by
  rw [hw.analyze_eq hne, term?_greek, Greek.indexForm_eq_iff.mpr h, Analyzer.foldLiteral,
    Greek.normalizeText]
  split
  · next hstop => exact iff_of_true rfl hstop
  · next hstop => exact iff_of_false (List.cons_ne_nil _ _) hstop

/-! ### The expression of a word -/

/-- A text has no more characters than bytes. -/
theorem length_toList_le (s : String) : s.toList.length ≤ s.utf8ByteSize := by
  rw [← String.ofList_toList (s := s), String.utf8ByteSize_ofList, String.toList_ofList]
  induction s.toList with
  | nil => exact Nat.zero_le _
  | cons c s ih =>
    have hpos := c.utf8Size_pos
    rw [List.length_cons, String.utf8Len_cons]
    omega

/-- How the expression of a folded word is read. -/
theorem read?_wildcardRegex (hw : IsShortWord w) :
    Regex.read? (wildcardRegex (Analyzer.greek.foldLiteral w)) =
      some ⟨beginningItems (Greek.normalize w.toList)⟩ := by
  have hnone {d : Char} (hd : Catalog.isAlphanumeric d = false) : d ∉ w.toList := fun hmem => by
    rw [hw.isAlphanumeric d hmem] at hd
    cases hd
  have hstar : '*' ∉ (Analyzer.greek.foldLiteral w).toList :=
    Analyzer.greek.not_mem_foldLiteral (by decide) (by decide) (hnone (by decide +kernel))
  have hmark : '?' ∉ (Analyzer.greek.foldLiteral w).toList :=
    Analyzer.greek.not_mem_foldLiteral (by decide) (by decide) (hnone (by decide +kernel))
  rw [Catalog.read?_wildcardRegex, wildcardItems_of_not_mem hstar hmark, Analyzer.foldLiteral,
    Greek.normalizeText, String.toList_ofList]

/-- **The expression of a folded word can be searched for.** -/
theorem hasFewStates (hw : IsShortWord w) :
    (Regex.mk (beginningItems (Greek.normalize w.toList))).hasFewStates = true := by
  refine hasFewStates_beginning _ ?_
  have hfolded := Greek.length_normalize_le w.toList
  have hbytes := length_toList_le w
  have hshort := hw.isShort
  rw [tokenByteLimit] at hshort
  rw [Regex.mostStates]
  omega

/-- **The expression of a folded word matches the term of the word** just if there is one and the
word folds alike. -/
theorem any_accepts_analyze_greek_iff (hw : IsShortWord w) :
    ((Analyzer.greek.analyze w).any fun t =>
        (Regex.mk (beginningItems (Greek.normalize w.toList))).accepts t.toList) = true ↔
      Analyzer.greek.analyze w ≠ [] ∧ Greek.FoldsAlike w.toList := by
  rcases hw.analyze_greek with hnil | hterm
  · rw [hnil]
    simp
  · rw [hterm, List.any_cons, List.any_nil, Bool.or_false, String.toList_ofList, accepts_eq,
      itemsAccept_beginning_iff, and_iff_right (List.cons_ne_nil _ _)]
    constructor
    · rintro ⟨r, heq, -⟩
      exact Greek.isPrefix_indexForm_iff.mp ⟨r, heq.symm⟩
    · intro h
      refine ⟨[], ?_, fun c hc => absurd hc List.not_mem_nil⟩
      rw [List.append_nil, Greek.indexForm_eq_iff.mpr h]

end IsShortWord

end Catalog
