import Catalog.Clause.Descriptor
import Catalog.Proofs.Text.Blank
import Catalog.Proofs.Text.Greek.Folded
import Catalog.Proofs.Text.Literal

/-!
# Texts that are folded piece by piece

Folding looks ahead over three characters and, for the form of a sigma, as far as letters go on
either side, and how often it passes over a text depends on the whole of it. A separator such as a
blank, a hyphen or a wildcard stops all of that: it is no letter, it is nothing that is ignored for
case, and no pass changes it. So what stands before it and what stands behind it are folded as if
the other were not there, and a text may be cut at its separators before or after it is folded.

The one thing that does not go piece by piece is whether a text calls for folding at all. It matters
just for a digraph in a piece that does not.

## Main definitions

* `IsDivider`: the characters that stop folding
* `IsDividing`: separators that all do
* `isWildcard`: the wildcards of a literal
* `Analyzer.foldChars`: folded literals as lists of characters

## Main results

* `Greek.normalize_append_cons_iff`: when two pieces are folded as if the other were not there
* `Analyzer.foldChars_append_cons`: what stands around a divider is folded by itself
* `IsDividing.pieces_foldChars`, `IsDividing.filter_foldChars`: the pieces and the separators of a
  folded text
* `Greek.normalizeText_separated`: texts of ASCII and Greek letters
-/

namespace Catalog

/-- A character that stops folding: it is left alone, and nothing is decided beyond it. -/
structure IsDivider (c : Char) : Prop where
  isInert : Greek.IsInert c
  isLower : IsLower c
  isCased : isCased c = false
  isCaseIgnorable : isCaseIgnorable c = false

instance (c : Char) : Decidable (IsDivider c) :=
  decidable_of_iff
    (Greek.IsInert c ∧ IsLower c ∧ isCased c = false ∧ isCaseIgnorable c = false)
    ⟨fun h => ⟨h.1, h.2.1, h.2.2.1, h.2.2.2⟩,
      fun h => ⟨h.isInert, h.isLower, h.isCased, h.isCaseIgnorable⟩⟩

variable {c : Char}

/-! ### Lower-casing around a divider -/

theorem casedNext_append_cons (hc : IsDivider c) (s t : List Char) :
    casedNext (s ++ c :: t) = casedNext s := by
  induction s with
  | nil =>
    rw [List.nil_append, Greek.casedNext_cons, hc.isCaseIgnorable, hc.isCased]
    rfl
  | cons d s ih => rw [List.cons_append, Greek.casedNext_cons, Greek.casedNext_cons, ih]

theorem lowercaseFrom_append_cons (hc : IsDivider c) (inWord : Bool) (s t : List Char) :
    lowercaseFrom inWord (s ++ c :: t) = lowercaseFrom inWord s ++ c :: lowercase t := by
  induction s generalizing inWord with
  | nil =>
    have hne : c ≠ 'Σ' := by
      rintro rfl
      exact absurd hc.isLower (by decide)
    have hlower : lowerChar c = [c] := hc.isLower
    simp only [List.nil_append, lowercaseFrom, if_neg hne, hlower, hc.isCaseIgnorable, hc.isCased]
    rfl
  | cons d s ih =>
    rw [List.cons_append, lowercaseFrom, lowercaseFrom, casedNext_append_cons hc, ih,
      List.append_assoc]

theorem lowercase_append_cons (hc : IsDivider c) (s t : List Char) :
    lowercase (s ++ c :: t) = lowercase s ++ c :: lowercase t :=
  lowercaseFrom_append_cons hc false s t

namespace Greek

/-! ### A pass around a divider -/

/-- Whether a pair is voiced is not decided beyond an inert character. -/
theorem isVoiced_append_cons (hc : IsInert c) (s t : List Char) :
    isVoiced (s ++ c :: t).head? (s ++ c :: t).tail.head? = isVoiced s.head? s.tail.head? := by
  rw [isVoiced_eq, isVoiced_eq]
  cases s with
  | nil => simp [isSounded_of_inert hc, isTau_of_inert hc]
  | cons d s =>
    cases s with
    | nil => simp [isZeta_of_inert hc]
    | cons e s => rfl

theorem beginsPair_append_cons (hc : IsInert c) (d : Char) (s t : List Char) :
    beginsPair d (s ++ c :: t) = beginsPair d s := by
  cases s with
  | nil =>
    change isPair d c = false
    rw [isPair, upsilons_of_inert hc, iotas_of_inert hc]
    simp
  | cons e s => rfl

theorem foldSounds_append_cons (hc : IsInert c) (s t : List Char) :
    foldSounds (s ++ c :: t) = foldSounds s ++ c :: foldSounds t := by
  induction s using foldSounds_induction with
  | nil => exact foldSounds_cons_of_inert hc t
  | labial d e r hd he ih =>
    rw [List.cons_append, List.cons_append, foldSounds_labial hd he, foldSounds_labial hd he, ih,
      labial, labial, isVoiced_append_cons hc]
    rfl
  | epsilon d e r hd he ih =>
    rw [List.cons_append, List.cons_append, foldSounds_epsilon hd he, foldSounds_epsilon hd he, ih]
    rfl
  | iota d e r hd he ih =>
    rw [List.cons_append, List.cons_append, foldSounds_iota hd he, foldSounds_iota hd he, ih]
    rfl
  | single d s hpair ih =>
    rw [List.cons_append, foldSounds_cons ((beginsPair_append_cons hc d s t).trans hpair),
      foldSounds_cons hpair, ih]
    rfl

/-- **A pass goes piece by piece.** -/
theorem foldOnce_append_cons (hc : IsDivider c) (s t : List Char) :
    foldOnce (s ++ c :: t) = foldOnce s ++ c :: foldOnce t := by
  rw [foldOnce, foldSounds_append_cons hc.isInert, stripAccents, List.map_append, List.map_cons,
    stripAccent_of_inert hc.isInert, lowercase_append_cons hc]
  rfl

/-! ### The passes around a divider -/

theorem IsInert.head?_ne (hc : IsInert c) (t : List Char) : (c :: t).head? ≠ some 'ι' := by
  simp only [List.head?_cons, ne_eq, Option.some_inj]
  rintro rfl
  exact absurd hc (by decide)

theorem absorb_append_cons (hc : IsInert c) (d : Char) (s t : List Char) :
    absorb d (s ++ c :: t) = absorb d s ++ c :: t := by
  cases s with
  | nil =>
    rw [List.nil_append, absorb_of_head (hc.head?_ne t), absorb_of_head (by simp)]
    rfl
  | cons e s =>
    rw [absorb, absorb, List.cons_append, List.head?_cons, List.head?_cons]
    split <;> rfl

theorem prepend_append_cons (hc : IsInert c) (d : Char) (s t : List Char) :
    prepend d (s ++ c :: t) = prepend d s ++ c :: t := by
  cases s with
  | nil =>
    rw [List.nil_append, prepend_of_head (hc.head?_ne t), prepend_of_head (by simp)]
    rfl
  | cons e s =>
    rw [prepend, prepend, List.cons_append, List.head?_cons, List.head?_cons, List.tail_cons,
      List.tail_cons, absorb_append_cons hc, ← List.cons_append, absorb_append_cons hc]
    split <;> rfl

theorem fuse_append_cons (hc : IsInert c) (s t : List Char) :
    fuse (s ++ c :: t) = fuse s ++ c :: fuse t := by
  induction s with
  | nil =>
    have hne : ∀ d ∈ letters, c ≠ d := fun d hd heq => hc (heq ▸ hd)
    exact prepend_of_ne (hne _ (by decide)) (hne _ (by decide)) (hne _ (by decide)) _
  | cons d s ih => rw [List.cons_append, fuse_cons, ih, prepend_append_cons hc, fuse_cons]

/-- The passes over a text that does not call for them put its digraphs in lower case. -/
theorem fuse_of_not_needsFolding {s : List Char} (h : needsFolding s = false) :
    fuse (foldSounds (foldOnce s)) = s.map smallDigraph := by
  have hinert := isInert_of_not_needsFolding (needsFolding_map_smallDigraph h)
  rw [foldOnce_of_not_needsFolding h, foldSounds_of_inert hinert, fuse_of_inert hinert]

/-- A folded form is what the passes make of a text, unless they would change a digraph of a text
that does not call for them. -/
theorem normalize_eq_fuse_iff {s : List Char} :
    normalize s = fuse (foldSounds (foldOnce s)) ↔
      (needsFolding s = false → ∀ e ∈ digraphs, e.1 ∉ s) := by
  cases h : needsFolding s with
  | true => exact iff_of_true (normalize_of_needsFolding h) fun hfalse => absurd hfalse (by decide)
  | false =>
    rw [normalize_of_not_needsFolding h, fuse_of_not_needsFolding h, eq_comm,
      map_smallDigraph_eq_self_iff, imp_iff_right rfl]

theorem length_normalize (s : List Char) :
    (fuse (foldSounds (foldOnce s))).length = (normalize s).length := by
  cases h : needsFolding s with
  | true => rw [normalize_of_needsFolding h]
  | false => rw [fuse_of_not_needsFolding h, List.length_map, normalize_of_not_needsFolding h]

/-- **Folding goes piece by piece**, just if no piece holds a digraph that it would keep and the
whole text would not. -/
theorem normalize_append_cons_iff (hc : IsDivider c) {s t : List Char} :
    normalize (s ++ c :: t) = normalize s ++ c :: normalize t ↔
      (needsFolding (s ++ c :: t) = true →
        (needsFolding s = false → ∀ e ∈ digraphs, e.1 ∉ s) ∧
          (needsFolding t = false → ∀ e ∈ digraphs, e.1 ∉ t)) := by
  cases h : needsFolding (s ++ c :: t) with
  | true =>
    rw [normalize_of_needsFolding h, foldOnce_append_cons hc, foldSounds_append_cons hc.isInert,
      fuse_append_cons hc.isInert, imp_iff_right rfl, ← normalize_eq_fuse_iff,
      ← normalize_eq_fuse_iff]
    constructor
    · intro heq
      obtain ⟨hs, ht⟩ := List.append_inj heq (length_normalize s)
      exact ⟨hs.symm, (List.cons.inj ht).2.symm⟩
    · rintro ⟨hs, ht⟩
      rw [hs, ht]
  | false =>
    have hparts := h
    rw [needsFolding, List.any_append, List.any_cons, Bool.or_eq_false_iff,
      Bool.or_eq_false_iff] at hparts
    obtain ⟨hs, -, ht⟩ := hparts
    refine iff_of_true ?_ fun htrue => absurd htrue (by decide)
    rw [normalize_of_not_needsFolding h, normalize_of_not_needsFolding hs,
      normalize_of_not_needsFolding ht]

example : normalizeText "ǅep" = "ǅep" ∧ normalizeText "ǅep Ώρα" = "ǆep ορα" := by decide +kernel

end Greek

/-! ### Literals around a divider -/

theorem not_mem_digraphs_of_append_cons {s t : List Char}
    (h : ∀ e ∈ digraphs, e.1 ∉ s ++ c :: t) :
    (∀ e ∈ digraphs, e.1 ∉ s) ∧ ∀ e ∈ digraphs, e.1 ∉ t :=
  ⟨fun e he hmem => h e he (List.mem_append_left _ hmem),
    fun e he hmem => h e he (List.mem_append_right _ (List.mem_cons_of_mem _ hmem))⟩

namespace Analyzer

/-- The folded form of the characters of a literal. -/
def foldChars : Analyzer → List Char → List Char
  | .greek => Greek.normalize
  | .standard | .stemmed _ => lowercase

theorem foldLiteral_eq (a : Analyzer) (s : String) :
    a.foldLiteral s = String.ofList (a.foldChars s.toList) := by
  cases a <;> rfl

theorem foldLiteral_ofList (a : Analyzer) (s : List Char) :
    a.foldLiteral (String.ofList s) = String.ofList (a.foldChars s) := by
  rw [foldLiteral_eq, String.toList_ofList]

theorem foldChars_eq_nil_iff (a : Analyzer) {s : List Char} : a.foldChars s = [] ↔ s = [] := by
  cases a with
  | standard => exact lowercaseFrom_eq_nil_iff
  | greek => exact Greek.normalize_eq_nil_iff
  | stemmed l => exact lowercaseFrom_eq_nil_iff

/-- **What stands around a divider is folded by itself.** -/
theorem foldChars_append_cons (a : Analyzer) (hc : IsDivider c) {s t : List Char}
    (hs : ∀ e ∈ digraphs, e.1 ∉ s) (ht : ∀ e ∈ digraphs, e.1 ∉ t) :
    a.foldChars (s ++ c :: t) = a.foldChars s ++ c :: a.foldChars t := by
  cases a with
  | standard => exact lowercase_append_cons hc s t
  | greek => exact (Greek.normalize_append_cons_iff hc).mpr fun _ => ⟨fun _ => hs, fun _ => ht⟩
  | stemmed l => exact lowercase_append_cons hc s t

end Analyzer

/-! ### Separators -/

/-- Separators that stop folding and that lower-casing does not add. -/
structure IsDividing (isSep : Char → Bool) : Prop where
  isDivider : ∀ c, isSep c = true → IsDivider c
  lower : ∀ c, isSep c = false → ∀ d ∈ lowerChar c, isSep d = false

namespace IsDividing

variable {isSep : Char → Bool}

/-- A piece is folded to a piece. -/
theorem forall_foldChars (h : IsDividing isSep) (a : Analyzer) {s : List Char}
    (hs : ∀ c ∈ s, isSep c = false) : ∀ c ∈ a.foldChars s, isSep c = false := by
  have hnot {c : Char} (hc : ¬ IsDivider c) : isSep c = false :=
    Bool.eq_false_iff.mpr fun hsep => hc (h.isDivider c hsep)
  have hletters : ∀ c ∈ Greek.letters, isSep c = false := fun c hc =>
    hnot fun hdivider => hdivider.isInert hc
  have hfolded := a.forall_foldLiteral (w := String.ofList s) hletters (hnot (by decide +kernel))
    h.lower (by rwa [String.toList_ofList])
  rwa [a.foldLiteral_ofList, String.toList_ofList] at hfolded

/-- **The pieces of a folded text are the folded pieces.** -/
theorem pieces_foldChars (h : IsDividing isSep) (a : Analyzer) {s : List Char}
    (hs : ∀ e ∈ digraphs, e.1 ∉ s) :
    pieces isSep (a.foldChars s) = (pieces isSep s).map a.foldChars := by
  induction s using pieces_induction isSep with
  | piece s hpiece =>
    rw [pieces_of_forall hpiece, pieces_of_forall (h.forall_foldChars a hpiece),
      List.map_singleton]
  | append s sep t hpiece hsep ih =>
    obtain ⟨hleft, hright⟩ := not_mem_digraphs_of_append_cons hs
    rw [a.foldChars_append_cons (h.isDivider sep hsep) hleft hright,
      pieces_append_cons (h.forall_foldChars a hpiece) hsep, ih hright,
      pieces_append_cons hpiece hsep, List.map_cons]

/-- **The separators of a folded text are those of the text.** -/
theorem filter_foldChars (h : IsDividing isSep) (a : Analyzer) {s : List Char}
    (hs : ∀ e ∈ digraphs, e.1 ∉ s) : (a.foldChars s).filter isSep = s.filter isSep := by
  have hnone {s : List Char} (hpiece : ∀ c ∈ s, isSep c = false) : s.filter isSep = [] :=
    List.filter_eq_nil_iff.mpr fun c hc => by rw [hpiece c hc]; decide
  induction s using pieces_induction isSep with
  | piece s hpiece => rw [hnone hpiece, hnone (h.forall_foldChars a hpiece)]
  | append s sep t hpiece hsep ih =>
    obtain ⟨hleft, hright⟩ := not_mem_digraphs_of_append_cons hs
    rw [a.foldChars_append_cons (h.isDivider sep hsep) hleft hright, List.filter_append,
      List.filter_append, List.filter_cons_of_pos hsep, List.filter_cons_of_pos hsep,
      hnone hpiece, hnone (h.forall_foldChars a hpiece), ih hright]

/-- **The words of a folded text are the folded words.** -/
theorem wordsBy_foldChars (h : IsDividing isSep) (a : Analyzer) {s : List Char}
    (hs : ∀ e ∈ digraphs, e.1 ∉ s) :
    wordsBy isSep (a.foldChars s) = (wordsBy isSep s).map a.foldChars := by
  have hempty (p : List Char) : (a.foldChars p).isEmpty = p.isEmpty := by
    rw [Bool.eq_iff_iff, List.isEmpty_iff, List.isEmpty_iff, a.foldChars_eq_nil_iff]
  rw [wordsBy, h.pieces_foldChars a hs, List.filter_map, wordsBy]
  simp only [Function.comp_def, hempty]

/-- One more separator. -/
theorem or_eq (h : IsDividing isSep) {d : Char} (hd : IsDivider d) (hascii : d.toNat < 0x80)
    (hletter : d.isAlpha = false) : IsDividing fun c => isSep c || c == d where
  isDivider c hc := by
    rcases Bool.or_eq_true_iff.mp hc with hc | hc
    · exact h.isDivider c hc
    · exact beq_iff_eq.mp hc ▸ hd
  lower c hc e he := by
    obtain ⟨hsep, hne⟩ := Bool.or_eq_false_iff.mp hc
    rw [h.lower c hsep e he, Bool.false_or, beq_eq_false_iff_ne]
    rintro rfl
    exact beq_eq_false_iff_ne.mp hne (eq_of_mem_lowerChar hascii hletter he).symm

end IsDividing

theorem isDivider_of_isBlank (h : isBlank c = true) : IsDivider c := by
  have hall : ∀ r ∈ blankClass.ranges, ∀ k ≤ r.2 - r.1, IsDivider (Char.ofNat (r.1 + k)) := by
    decide +kernel
  obtain ⟨r, hr, hl, hg⟩ := CharClass.contains_iff.mp h
  exact forall_of_range (hall r hr) hl hg

theorem isDividing_isBlank : IsDividing isBlank :=
  ⟨fun _ => isDivider_of_isBlank, fun _ hc _ hd => isBlank_of_mem_lowerChar hd hc⟩

theorem isDividing_isTextBreak : IsDividing isTextBreak :=
  isDividing_isBlank.or_eq (by decide +kernel) (by decide) (by decide)

/-- A character of a literal that stands for others. -/
def isWildcard (c : Char) : Bool :=
  c == '*' || c == '?'

theorem isDividing_isWildcard : IsDividing isWildcard :=
  have hnone : IsDividing fun _ => false := ⟨nofun, fun _ _ _ _ => rfl⟩
  have hstar : IsDividing fun c => false || c == '*' :=
    hnone.or_eq (by decide +kernel) (by decide) (by decide)
  hstar.or_eq (by decide +kernel) (by decide) (by decide)

/-! ### Texts of ASCII and Greek letters -/

theorem not_mem_digraphs_of_range {s : List Char}
    (hs : ∀ c ∈ s, c.toNat < 0x80 ∨ 0x386 ≤ c.toNat ∧ c.toNat ≤ 0x3ce) :
    ∀ e ∈ digraphs, e.1 ∉ s := by
  intro e he hmem
  have hall : ∀ e ∈ digraphs, 0x80 ≤ e.1.toNat ∧ e.1.toNat < 0x386 := by decide
  have hcode := hall e he
  rcases hs e.1 hmem with hascii | hgreek <;> omega

theorem mem_of_mem_trimChars {s : List Char} (h : c ∈ trimChars s) : c ∈ s := by
  have hstart {s : List Char} (h : c ∈ trimStart s) : c ∈ s := (List.dropWhile_suffix _).subset h
  exact hstart (List.mem_reverse.mp (hstart (List.mem_reverse.mp h)))

/-- The words of a folded literal, trimmed or not, are the folded words of the literal. -/
theorem Analyzer.words_foldLiteral_trim (a : Analyzer) {s : String}
    (hs : ∀ e ∈ digraphs, e.1 ∉ s.toList) :
    words (a.foldLiteral (trim s)) = (words s).map a.foldLiteral := by
  have htrim : ∀ e ∈ digraphs, e.1 ∉ trimChars s.toList := fun e he hmem =>
    hs e he (mem_of_mem_trimChars hmem)
  rw [words, words, trim, a.foldLiteral_ofList, String.toList_ofList,
    isDividing_isBlank.wordsBy_foldChars a htrim, wordsBy_trimChars, List.map_map, List.map_map]
  exact List.map_congr_left fun w _ => (a.foldLiteral_ofList w).symm

/-- **Texts of ASCII and Greek letters are folded piece by piece**: around a blank, a tab, a hyphen
or a wildcard each side is folded as if the other were not there. So it is all one whether such a
text is trimmed, folded and cut into words, as for a fuzzy clause, or its words are folded, as for a
like clause and, with hyphens, for a free text, and this in every analyzer. The wildcards of a
folded literal are those of the literal, in order and with the folded pieces between them. -/
theorem Greek.normalizeText_separated {a b : String}
    (ha : ∀ c ∈ a.toList, c.toNat < 0x80 ∨ 0x386 ≤ c.toNat ∧ c.toNat ≤ 0x3ce)
    (hb : ∀ c ∈ b.toList, c.toNat < 0x80 ∨ 0x386 ≤ c.toNat ∧ c.toNat ≤ 0x3ce) :
    (∀ c ∈ [' ', '\t', '-', '*', '?'],
      normalizeText (a ++ String.singleton c ++ b) =
        normalizeText a ++ String.singleton c ++ normalizeText b) ∧
      ∀ analyzer : Analyzer,
        words (analyzer.foldLiteral (trim a)) = (words a).map analyzer.foldLiteral ∧
        (wordsBy isTextBreak (analyzer.foldLiteral a).toList).map String.ofList =
          (wordsBy isTextBreak a.toList).map (fun w => analyzer.foldLiteral (String.ofList w)) ∧
        (analyzer.foldLiteral a).toList.filter isWildcard = a.toList.filter isWildcard ∧
        (pieces isWildcard (analyzer.foldLiteral a).toList).map String.ofList =
          (pieces isWildcard a.toList).map fun p => analyzer.foldLiteral (String.ofList p) := by
  have hda := not_mem_digraphs_of_range ha
  have hdb := not_mem_digraphs_of_range hb
  constructor
  · intro c hc
    have hall : ∀ c ∈ [' ', '\t', '-', '*', '?'], IsDivider c := by decide +kernel
    have hfold := Analyzer.greek.foldChars_append_cons (hall c hc) hda hdb
    rw [String.ext_iff]
    simpa [normalizeText, Analyzer.foldChars] using hfold
  · intro analyzer
    have hchars : (analyzer.foldLiteral a).toList = analyzer.foldChars a.toList := by
      rw [analyzer.foldLiteral_eq, String.toList_ofList]
    simp only [hchars, analyzer.foldLiteral_ofList]
    refine ⟨analyzer.words_foldLiteral_trim hda, ?_,
      isDividing_isWildcard.filter_foldChars analyzer hda, ?_⟩
    · rw [isDividing_isTextBreak.wordsBy_foldChars analyzer hda, List.map_map]
      rfl
    · rw [isDividing_isWildcard.pieces_foldChars analyzer hda, List.map_map]
      rfl

/-- Behind a tau a zeta gives a pair its voice, but not across a wildcard, and a sigma in front of
one is a final sigma. -/
theorem Greek.normalizeText_separated_lookahead :
    normalizeText "ΑΥΤΖΟΣΑ" = "αβτζοσα" ∧ normalizeText "ΑΥΤ*ΖΟΣ?Α" = "αφτ*ζος?α" ∧
      (∀ c ∈ "ΑΥΤ".toList, c.toNat < 0x80 ∨ 0x386 ≤ c.toNat ∧ c.toNat ≤ 0x3ce) ∧
      (∀ c ∈ "ΖΟΣ?Α".toList, c.toNat < 0x80 ∨ 0x386 ≤ c.toNat ∧ c.toNat ≤ 0x3ce) ∧
      normalizeText ("ΑΥΤ" ++ String.singleton '*' ++ "ΖΟΣ?Α") =
        normalizeText "ΑΥΤ" ++ String.singleton '*' ++ normalizeText "ΖΟΣ?Α" :=
  have hleft : ∀ c ∈ "ΑΥΤ".toList, c.toNat < 0x80 ∨ 0x386 ≤ c.toNat ∧ c.toNat ≤ 0x3ce := by decide
  have hright : ∀ c ∈ "ΖΟΣ?Α".toList, c.toNat < 0x80 ∨ 0x386 ≤ c.toNat ∧ c.toNat ≤ 0x3ce := by
    decide
  ⟨by decide +kernel, by decide +kernel, hleft, hright,
    (normalizeText_separated hleft hright).1 '*' (by decide)⟩

end Catalog
