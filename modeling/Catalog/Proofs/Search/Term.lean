import Catalog.Proofs.Query.Layout
import Catalog.Proofs.Search.Like

/-!
# Term clauses

A term clause on an analyzed property is compiled as an expression or, if the text is none that
means something, as the escaped text. The escaped text is compiled too, unless it has no layout, or
all of its parts are negated or left without a term by the analyzer.

## Main definitions

* `Expression.AsksFor`: parts of a text that are a query
* `Expression.IsPlainWord`: words that are read as they are

## Main results

* `Expression.isSome_query?_escapeExpression_iff`: when an escaped text is compiled
* `Store.IsBuiltFor.termQuery_eq_error_iff`: when a term clause is refused
-/

namespace Catalog

namespace Expression

/-! ### Terms -/

/-- Of what is read an analyzer makes the terms of the text itself. -/
theorem Spells.tokens_eq {x : String} {w : List Char} (h : Spells x w) (a : Analyzer) :
    a.tokens x = a.tokens (.ofList w) := by
  rcases h with rfl | rfl
  · rfl
  · have hspecial : ∀ c ∈ expressionSpecials, (!isAlphanumeric c) = true := by decide +kernel
    rw [Analyzer.tokens, Analyzer.tokens, alphanumericWords, alphanumericWords,
      String.toList_ofList, String.toList_ofList,
      (agreesBy_unescapeWord_escaped hspecial w).wordsBy_eq]

/-! ### What a layout asks for -/

/-- Parts that are a query: a single one that is not negated, or one of several that is not negated
and has a term. -/
def AsksFor (a : Analyzer) (ps : List PlainPart) : Prop :=
  (∃ w, ps = [⟨0, w⟩]) ∨ ∃ p ∈ ps, p.negations = 0 ∧ a.tokens (.ofList p.text) ≠ []

theorem asksFor_singleton_iff {a : Analyzer} {p : PlainPart} :
    AsksFor a [p] ↔ p.negations = 0 := by
  constructor
  · rintro (⟨w, heq⟩ | ⟨q, hq, hnone, -⟩)
    · rw [(List.cons.inj heq).1]
    · rw [← List.mem_singleton.mp hq, hnone]
  · intro h
    refine .inl ⟨p.text, ?_⟩
    rw [← h]

/-- Parts without a field are about a text field whose words are indexed. -/
def IsAboutWords (scope : FieldScope) : Prop :=
  ∃ f, scope.field? scope.defaultField = some f ∧ f.type = .text ∧ f.indexing = .words

section Asking

variable {scope : FieldScope}

/-- The meaning of a word or phrase is empty just if the analyzer leaves no term of it. -/
theorem exists_meaning?_literal (hscope : IsAboutWords scope) (x : String) : ∃ m,
    (literal none x 0 false).meaning? scope = some m ∧ m.isPositive = true ∧
      m.isNegative = (scope.analyzer.tokens x).isEmpty := by
  obtain ⟨f, hf, htype, hindexing⟩ := hscope
  have hmeaning : (literal none x 0 false).meaning? scope =
      f.literal? scope.analyzer x 0 false := by
    rw [meaning?, Option.getD_none, hf]
    rfl
  have hterms : f.textTerms scope.analyzer x =
      (scope.analyzer.tokens x).map fun t => ⟨t.position, t.text⟩ := by
    rw [StoreField.textTerms, hindexing]
  rw [hmeaning, StoreField.literal?, htype, hindexing, hterms]
  rcases scope.analyzer.tokens x with _ | ⟨t, _ | ⟨t', l⟩⟩
  · exact ⟨_, rfl, rfl, rfl⟩
  · exact ⟨_, rfl, rfl, rfl⟩
  · exact ⟨_, rfl, rfl, rfl⟩

theorem negativity_iterate_negated (k : Nat) (e : Expression) :
    negativity scope (negated^[k] e) = (negativity scope e).map (k != 0 || ·) := by
  induction k with
  | zero => exact (Option.map_id' ..).symm
  | succ k ih =>
    rw [Function.iterate_succ_apply', negativity_negated, ih, Option.map_map]
    rfl

theorem Reads.negativity_eq (hscope : IsAboutWords scope) {e : Expression} {p : PlainPart}
    (h : Reads e p) : negativity scope e =
      some (p.negations != 0 || (scope.analyzer.tokens (.ofList p.text)).isEmpty) := by
  obtain ⟨x, hx, rfl⟩ := h
  obtain ⟨m, hm, -, hnegative⟩ := exists_meaning?_literal hscope x
  rw [negativity_iterate_negated, negativity, hm, Option.map_some, Option.map_some, hnegative,
    hx.tokens_eq]

/-- A single part is a query just if it is not negated, even if it has no term. -/
theorem Reads.isPositive_flattened_iff (hscope : IsAboutWords scope) {e : Expression}
    {p : PlainPart} (h : Reads e p) :
    (e.flattened.meaning? scope).any Meaning.isPositive = true ↔ p.negations = 0 := by
  obtain ⟨x, hx, rfl⟩ := h
  cases hp : p.negations with
  | zero =>
    obtain ⟨m, hm, hpositive, -⟩ := exists_meaning?_literal hscope x
    refine iff_of_true ?_ rfl
    change ((literal none x 0 false).meaning? scope).any Meaning.isPositive = true
    rw [hm, Option.any_some, hpositive]
  | succ k =>
    refine iff_of_false ?_ (Nat.succ_ne_zero k)
    rw [Function.iterate_succ_apply', negated, flattened, List.map_singleton,
      isPositive_clause_iff (List.cons_ne_nil _ _), negativity_clause, List.map_singleton,
      allNegative_singleton, partNegativity_flattenPart, partNegativity, Option.map_eq_some_iff]
    rintro ⟨b, -, hb⟩
    cases hb

theorem ReadsPart.joinedNegativity_eq (hscope : IsAboutWords scope) {q : JoinedPart}
    {p : PlainPart} (h : ReadsPart q p) : joinedNegativity scope q =
      some (p.negations != 0 || (scope.analyzer.tokens (.ofList p.text)).isEmpty) := by
  obtain ⟨hsign, hread⟩ := h
  rw [joinedNegativity, partNegativity, hsign, hread.negativity_eq hscope]
  rfl

theorem joined_singleton (before : Option Junction) (e : Expression) :
    joined [(before, none, e)] = e := by
  rcases before with _ | _ | _ <;> rfl

/-- **The parts of a layout are a query** just if they ask for something. -/
theorem Layout.isPositive_joined_iff (hscope : IsAboutWords scope) {s : List Char}
    {ps : List PlainPart} (h : Layout s ps) {l : List JoinedPart}
    (hl : List.Forall₂ ReadsPart l ps) :
    ((joined l).flattened.meaning? scope).any Meaning.isPositive = true ↔
      AsksFor scope.analyzer ps := by
  cases h with
  | @single _ _ _ p _ _ _ =>
    obtain ⟨⟨before, sign, e⟩, l, ⟨hsign, hread⟩, hnil, rfl⟩ := List.forall₂_cons_right_iff.mp hl
    obtain rfl : sign = none := hsign
    obtain rfl := List.forall₂_nil_right_iff.mp hnil
    rw [joined_singleton, hread.isPositive_flattened_iff hscope, asksFor_singleton_iff]
  | @several _ _ _ _ p ps _ _ _ _ hne =>
    have hlength : 2 ≤ l.length := by
      have := List.length_pos_iff.mpr hne
      rw [hl.length_eq, List.length_cons]
      omega
    have hmap : l.map (joinedNegativity scope) = (p :: ps).map fun p =>
        some (p.negations != 0 || (scope.analyzer.tokens (.ofList p.text)).isEmpty) := by
      rw [← List.forall₂_eq_eq_eq, List.forall₂_map_left_iff, List.forall₂_map_right_iff]
      exact hl.imp fun _ _ h => h.joinedNegativity_eq hscope
    have hsingle : ¬ ∃ w, p :: ps = [⟨0, w⟩] := fun ⟨w, heq⟩ => hne (List.cons.inj heq).2
    rw [Expression.isPositive_joined_iff hlength, hmap, AsksFor, or_iff_right hsingle]
    simp

/-- **An escaped text is compiled** just if it has a layout that asks for something. -/
theorem isSome_query?_escapeExpression_iff (hscope : IsAboutWords scope) {t : String}
    (ht : isBlankText t = false) : (query? scope (escapeExpression t)).isSome = true ↔
      ∃ ps, Layout t.toList ps ∧ AsksFor scope.analyzer ps := by
  rw [isSome_query?_iff]
  constructor
  · rintro ⟨e, hread, hpositive⟩
    rcases exists_layout_of_read? ht hread with hnone | ⟨l, ps, hps, hl, rfl⟩
    · have hmeaning : e.meaning? scope = none := Option.map_eq_none_iff.mp (hnone scope)
      rw [hmeaning] at hpositive
      cases hpositive
    · exact ⟨ps, hps, (hps.isPositive_joined_iff hscope hl).mp hpositive⟩
  · rintro ⟨ps, hps, hasks⟩
    obtain ⟨l, hl, hread⟩ := hps.exists_read?
    exact ⟨_, hread, (hps.isPositive_joined_iff hscope hl).mpr hasks⟩

end Asking

/-! ### Plain words -/

/-- A word that an escaped text has as it is: no quotes, no sign of comparison in front, and none of
the words that are reserved. -/
structure IsPlainWord (w : List Char) : Prop where
  ne_nil : w ≠ []
  forall_isWordChar : ∀ c ∈ w, isWordChar c = true
  not_comparison : w.head? ≠ some '<' ∧ w.head? ≠ some '>'
  not_reserved : reservedWords.contains (String.ofList w) = false

instance (w : List Char) : Decidable (IsPlainWord w) :=
  decidable_of_iff (w ≠ [] ∧ (∀ c ∈ w, isWordChar c = true) ∧
      (w.head? ≠ some '<' ∧ w.head? ≠ some '>') ∧ reservedWords.contains (String.ofList w) = false)
    ⟨fun h => ⟨h.1, h.2.1, h.2.2.1, h.2.2.2⟩,
      fun h => ⟨h.ne_nil, h.forall_isWordChar, h.not_comparison, h.not_reserved⟩⟩

section Words

variable {s w r : List Char}

theorem exists_cons_of_mem_comparisons {p : String × (String → WrittenEnd × WrittenEnd)}
    (h : p ∈ comparisons) : ∃ c l, p.1.toList = c :: l ∧ (c = '<' ∨ c = '>') := by
  simp only [comparisons, List.mem_cons, List.not_mem_nil, or_false] at h
  rcases h with rfl | rfl | rfl | rfl
  · exact ⟨'>', ['='], rfl, .inr rfl⟩
  · exact ⟨'<', ['='], rfl, .inl rfl⟩
  · exact ⟨'<', [], rfl, .inl rfl⟩
  · exact ⟨'>', [], rfl, .inr rfl⟩

theorem IsPlainWord.beginsPart (h : IsPlainWord w) (hr : ∀ c ∈ r.head?, isGap c = true) :
    BeginsPart (w ++ r) ⟨0, w⟩ r := by
  refine .text ?_ (.word h.ne_nil h.forall_isWordChar
    (fun c hc => isWordChar_of_isGap (hr c hc)) h.not_reserved)
  obtain ⟨c, w, rfl⟩ := List.exists_cons_of_ne_nil h.ne_nil
  obtain ⟨hless, hgreater⟩ := h.not_comparison
  have hbehind : behindSign (c :: w ++ r) = none := by
    rw [behindSign, List.findSome?_eq_none_iff]
    intro p hp
    rw [Option.eq_none_iff_forall_ne_some]
    intro t ht
    rw [takeTag_eq_some_iff] at ht
    obtain ⟨d, l, hl, hd⟩ := exists_cons_of_mem_comparisons hp
    rw [hl, List.cons_append, List.cons_append] at ht
    rw [(List.cons.inj ht).1] at hless hgreater
    rcases hd with rfl | rfl
    · exact hless rfl
    · exact hgreater rfl
  rw [beginsComparison, hbehind]
  rfl

/-- A text is blanks, or there is a first word. -/
theorem isGaps_or_exists_word (s : List Char) : (IsGaps s ∧ wordsBy isGap s = []) ∨
    ∃ g w r, IsGaps g ∧ s = g ++ (w ++ r) ∧ w ≠ [] ∧ (∀ c ∈ r.head?, isGap c = true) ∧
      wordsBy isGap s = w :: wordsBy isGap r := by
  induction s with
  | nil => exact .inl ⟨nofun, rfl⟩
  | cons c s ih =>
    cases hc : isGap c with
    | true =>
      rcases ih with ⟨hs, hnil⟩ | ⟨g, w, r, hg, rfl, hne, hr, hwords⟩
      · exact .inl ⟨List.forall_mem_cons.mpr ⟨hc, hs⟩, by rw [wordsBy_cons_of_sep hc, hnil]⟩
      · refine .inr ⟨c :: g, w, r, List.forall_mem_cons.mpr ⟨hc, hg⟩, rfl, hne, hr, ?_⟩
        rw [wordsBy_cons_of_sep hc, hwords]
    | false =>
      rcases forall_or_exists_append_cons isGap (c :: s) with hs | ⟨w, d, b, hs, hw, hd⟩
      · refine .inr ⟨[], c :: s, [], nofun, (List.append_nil _).symm, List.cons_ne_nil _ _,
          nofun, ?_⟩
        rw [wordsBy, pieces_of_forall hs]
        rfl
      · have hne : w ≠ [] := by
          rintro rfl
          obtain ⟨rfl, -⟩ := List.cons.inj hs
          rw [hc] at hd
          cases hd
        refine .inr ⟨[], w, d :: b, nofun, hs, hne, by simpa using hd, ?_⟩
        rw [hs, wordsBy, pieces_append_cons hw hd, wordsBy_cons_of_sep hd, List.filter_cons_of_pos]
        · rfl
        · rw [List.isEmpty_eq_false_iff.mpr hne]
          rfl

/-- Plain words go on. -/
theorem continues_of_words (h : ∀ w ∈ wordsBy isGap s, IsPlainWord w) :
    Continues (skipGap s) ((wordsBy isGap s).map (⟨0, ·⟩)) := by
  induction hn : s.length using Nat.strongRecOn generalizing s with
  | ind n ih =>
    rcases isGaps_or_exists_word s with ⟨hs, hnil⟩ | ⟨g, w, r, hg, rfl, hne, hr, hwords⟩
    · rw [hnil, isGaps_iff.mp hs]
      exact .nil
    · rw [hwords, List.forall_mem_cons] at h
      rw [skipGap_append hg, (h.1.beginsPart hr).skipGap_eq, hwords]
      refine .part (h.1.beginsPart hr) (ih r.length ?_ h.2 rfl)
      have := List.length_pos_iff.mpr hne
      rw [List.length_append, List.length_append] at hn
      omega

/-- **A text of plain words has a layout.** -/
theorem layout_of_words (hne : wordsBy isGap s ≠ []) (h : ∀ w ∈ wordsBy isGap s, IsPlainWord w) :
    Layout s ((wordsBy isGap s).map (⟨0, ·⟩)) := by
  rcases isGaps_or_exists_word s with ⟨-, hnil⟩ | ⟨g, w, r, hg, rfl, -, hr, hwords⟩
  · exact absurd hnil hne
  · rw [hwords, List.forall_mem_cons] at h
    rw [hwords]
    rcases isGaps_or_exists_word r with ⟨hgaps, hnil⟩ | ⟨_, w', r', -, -, -, -, hrest⟩
    · rw [hnil]
      exact .single hg (h.1.beginsPart hr) hgaps
    · obtain ⟨c, r, rfl⟩ := List.exists_cons_of_ne_nil (l := r) (by
        rintro rfl
        cases hrest)
      have hc := hr c rfl
      have hnone : (wordsBy isGap (c :: r)).map (⟨0, ·⟩ : List Char → PlainPart) ≠ [] := by
        rw [hrest]
        exact List.cons_ne_nil _ _
      have hskip : skipGap (c :: r) = skipGap r := List.dropWhile_cons_of_pos hc
      refine .several hg (h.1.beginsPart hr) hc ?_ hnone
      rw [← hskip]
      exact continues_of_words h.2

end Words

end Expression

/-! ### Stores -/

namespace SearchScope

variable {scope : SearchScope} {b : Binding} {text : String}

theorem termQuery_refused_iff (htext : isBlankText text = false) :
    scope.termQuery b text = .error .expression ↔
      Expression.query? ⟨scope.fields, scope.analyzer, b.textField⟩ text = none ∧
        Expression.query? ⟨scope.fields, scope.analyzer, b.textField⟩ (escapeExpression text) =
          none := by
  rw [termQuery, if_neg (by rw [htext]; decide)]
  dsimp only
  cases Expression.query? ⟨scope.fields, scope.analyzer, b.textField⟩ text with
  | some q => exact iff_of_false nofun nofun
  | none =>
    cases Expression.query? ⟨scope.fields, scope.analyzer, b.textField⟩
        (escapeExpression text) with
    | some q => exact iff_of_false nofun nofun
    | none => exact iff_of_true rfl ⟨rfl, rfl⟩

end SearchScope

section Stores

variable {ρ : Type} {s : Store ρ} {R : RecordDescription ρ} {P : Property ρ} {text : String}

theorem Store.IsBuiltFor.isAboutWords (h : s.IsBuiltFor R) (hP : P ∈ R.properties)
    (hrole : P.binding.role = .analyzed) :
    Expression.IsAboutWords ⟨s.fields, s.config.analyzer, P.binding.textField⟩ := by
  refine ⟨⟨P.binding.textField, .text, .words, false, false⟩, ?_, rfl, rfl⟩
  simp only [FieldScope.field?, h.find?_textField hP hrole]
  rfl

/-- **When a term clause is refused.** A text that is not blank is refused just if it is no
expression that means something, and has no layout in which something is asked for. -/
theorem Store.IsBuiltFor.termQuery_eq_error_iff (h : s.IsBuiltFor R) (hP : P ∈ R.properties)
    (hrole : P.binding.role = .analyzed) (htext : isBlankText text = false) :
    s.scope.termQuery P.binding text = .error .expression ↔
      Expression.query? ⟨s.fields, s.config.analyzer, P.binding.textField⟩ text = none ∧
        ¬ ∃ ps, Expression.Layout text.toList ps ∧ Expression.AsksFor s.config.analyzer ps := by
  rw [SearchScope.termQuery_refused_iff htext,
    ← Expression.isSome_query?_escapeExpression_iff (h.isAboutWords hP hrole) htext,
    Option.not_isSome_iff_eq_none]
  rfl

end Stores

namespace Store.IsMadeFor

/-- A name that is no expression is compiled as two plain words. -/
theorem termQuery_modern :
    isBlankText "art (modern" = false ∧
      shops.scope.termQuery shopName.binding "art (modern" ≠ .error .expression := by
  have htext : isBlankText "art (modern" = false := by decide
  refine ⟨htext, fun hrefused => ?_⟩
  have hwords : wordsBy Expression.isGap "art (modern".toList =
      ["art".toList, "(modern".toList] := by decide
  have hart : Expression.IsPlainWord "art".toList := by decide
  have hmodern : Expression.IsPlainWord "(modern".toList := by decide
  have htokens : Analyzer.greek.tokens "art" ≠ [] := by decide
  obtain ⟨-, hnone⟩ := (isMadeFor_shops.toIsBuiltFor.termQuery_eq_error_iff (P := shopName)
    (List.get_mem _ _) rfl htext).mp hrefused
  refine hnone ⟨_, Expression.layout_of_words (by rw [hwords]; exact List.cons_ne_nil _ _) ?_,
    .inr ⟨⟨0, "art".toList⟩, ?_, rfl, htokens⟩⟩
  · rw [hwords, List.forall_mem_cons, List.forall_mem_singleton]
    exact ⟨hart, hmodern⟩
  · rw [hwords]
    exact List.mem_cons_self ..

/-- A single quote ends a word, and no backslash is put in front of it. -/
theorem termQuery_oneil :
    shopName.binding.role = .analyzed ∧ isBlankText "O'Neil" = false ∧
      shops.scope.termQuery shopName.binding "O'Neil" = .error .expression :=
  ⟨rfl, by decide, rfl⟩

end Store.IsMadeFor

end Catalog
