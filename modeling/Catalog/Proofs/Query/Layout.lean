import Catalog.Proofs.Query.Escaped
import Catalog.Proofs.Query.Meaning
import Mathlib.Data.List.DropRight
import Mathlib.Data.List.Forall2
import Mathlib.Logic.Function.Iterate

/-!
# The layout of an escaped text

An escaped text is read as words and texts in single quotes, each with any number of `NOT`s in
front. Behind the first part there has to be a gap, and behind any other one there may be; a
junction may stand in front of each part but the first one. A comparison is read too, but it is a
range without a field, which means nothing.

## Main definitions

* `Expression.PlainPart`: a part, by its negations and its text
* `Expression.BeginsPart`, `Expression.Continues`, `Expression.Layout`: the texts that are read

## Main results

* `Expression.Layout.exists_read?`: a text with a layout is read as its parts
* `Expression.exists_layout_of_read?`: what is read and means something has a layout
-/

namespace Catalog.Expression

/-- A part of an escaped text. -/
structure PlainPart where
  /-- How many negations stand in front. -/
  negations : Nat
  /-- The word, or the text between the quotes. -/
  text : List Char

/-- Blanks between the parts of a text. -/
def IsGaps (g : List Char) : Prop :=
  ∀ c ∈ g, isGap c = true

/-- A part at the front of a text, and what follows it. -/
inductive BeginsPart : List Char → PlainPart → List Char → Prop
  | text {s w r : List Char} (hcomparison : beginsComparison s = false) (h : Opens s w r) :
    BeginsPart s ⟨0, w⟩ r
  | not {g s r : List Char} {p : PlainPart} (hne : g ≠ []) (hg : IsGaps g)
    (h : BeginsPart s p r) : BeginsPart ("NOT".toList ++ (g ++ s)) ⟨p.negations + 1, p.text⟩ r

/-- Parts up to the end of a text, with or without junctions in front. -/
inductive Continues : List Char → List PlainPart → Prop
  | nil : Continues [] []
  | part {s r : List Char} {p : PlainPart} {ps : List PlainPart} (h : BeginsPart s p r)
    (hrest : Continues (skipGap r) ps) : Continues s (p :: ps)
  | joined {j : String} {g s r : List Char} {p : PlainPart} {ps : List PlainPart}
    (hj : j = "OR " ∨ j = "AND ") (hg : IsGaps g) (h : BeginsPart s p r)
    (hrest : Continues (skipGap r) ps) : Continues (j.toList ++ (g ++ s)) (p :: ps)

/-- The parts of a whole text. -/
inductive Layout : List Char → List PlainPart → Prop
  | single {g s r : List Char} {p : PlainPart} (hg : IsGaps g) (h : BeginsPart s p r)
    (hr : IsGaps r) : Layout (g ++ s) [p]
  | several {g s r : List Char} {c : Char} {p : PlainPart} {ps : List PlainPart} (hg : IsGaps g)
    (h : BeginsPart s p (c :: r)) (hc : isGap c = true) (hrest : Continues (skipGap r) ps)
    (hne : ps ≠ []) : Layout (g ++ s) (p :: ps)

/-- The expression of a part: its text, as a word or phrase, and its negations. -/
def Reads (e : Expression) (p : PlainPart) : Prop :=
  ∃ x, Spells x p.text ∧ e = negated^[p.negations] (.literal none x 0 false)

/-- An expression that has no meaning whatever the fields are. -/
def IsUnplaced (e : Expression) : Prop :=
  ∀ scope, e.meaning? scope = none

theorem IsUnplaced.negated {e : Expression} (h : IsUnplaced e) : IsUnplaced e.negated := by
  intro scope
  rw [Expression.negated, meaning?, partMeanings?, h scope]
  rfl

theorem isUnplaced_iff {e : Expression} :
    IsUnplaced e ↔ ∀ scope, negativity scope e = none := by
  simp only [IsUnplaced, negativity, Option.map_eq_none_iff]

/-! ### Gaps -/

section Gaps

variable {g s r : List Char}

theorem skipGap_append (hg : IsGaps g) (s : List Char) : skipGap (g ++ s) = skipGap s :=
  List.dropWhile_append_of_pos hg

theorem exists_gaps (s : List Char) : ∃ g, IsGaps g ∧ s = g ++ skipGap s :=
  ⟨s.takeWhile isGap, fun _ hc => List.mem_takeWhile_imp hc,
    (List.takeWhile_append_dropWhile ..).symm⟩

theorem skipGap_skipGap (s : List Char) : skipGap (skipGap s) = skipGap s :=
  List.dropWhile_idempotent ..

theorem isGaps_iff : IsGaps g ↔ skipGap g = [] := by
  rw [IsGaps, skipGap, List.dropWhile_eq_nil_iff]

theorem length_skipGap_le (s : List Char) : (skipGap s).length ≤ s.length :=
  (List.dropWhile_sublist _).length_le

theorem isWordChar_of_isGap {c : Char} (h : isGap c = true) : isWordChar c = false := by
  rw [isWordChar, isBlank_of_isGap h]
  rfl

theorem takeGap_append (hne : g ≠ []) (hg : IsGaps g) (s : List Char) :
    takeGap (g ++ s) = some (skipGap s) := by
  obtain ⟨c, g, rfl⟩ := List.exists_cons_of_ne_nil hne
  rw [IsGaps, List.forall_mem_cons] at hg
  rw [List.cons_append, takeGap, if_pos hg.1, skipGap_append hg.2]

theorem exists_of_takeGap (h : takeGap s = some r) :
    ∃ g, g ≠ [] ∧ IsGaps g ∧ s = g ++ r ∧ skipGap r = r := by
  cases s with
  | nil => cases h
  | cons c s =>
    rw [takeGap] at h
    split at h
    · next hc =>
      obtain rfl := Option.some.inj h
      obtain ⟨g, hg, hs⟩ := exists_gaps s
      refine ⟨c :: g, List.cons_ne_nil _ _, List.forall_mem_cons.mpr ⟨hc, hg⟩, ?_, ?_⟩
      · rw [List.cons_append, ← hs]
      · exact skipGap_skipGap s
    · cases h

end Gaps

/-! ### The beginning of a part -/

section Beginnings

variable {s w r : List Char} {p : PlainPart}

/-- A reserved word with a gap behind it is no text. -/
theorem Opens.ne_reserved (h : Opens s w r) {v : String} (hv : v ∈ reservedWords) {c : Char}
    (hc : isGap c = true) (t : List Char) : s ≠ v.toList ++ c :: t := by
  have hall : ∀ v ∈ reservedWords, (∀ d ∈ v.toList, isWordChar d = true) ∧
      v.toList.head? ≠ some '\'' ∧ v.toList ≠ [] := by
    decide
  obtain ⟨hword, hhead, hne⟩ := hall v hv
  cases h with
  | quoted hw r =>
    intro heq
    obtain ⟨d, l, hv⟩ := List.exists_cons_of_ne_nil hne
    rw [hv, List.cons_append] at heq
    obtain ⟨rfl, -⟩ := List.cons.inj heq
    exact hhead (by rw [hv]; rfl)
  | word _ hw hr hreserved =>
    intro heq
    have htake : (w ++ r).takeWhile isWordChar = w := by
      rw [List.takeWhile_append_of_pos hw]
      cases r with
      | nil => exact List.append_nil w
      | cons d r =>
        rw [List.takeWhile_cons_of_neg (by rw [hr d rfl]; decide), List.append_nil]
    rw [heq, List.takeWhile_append_of_pos hword,
      List.takeWhile_cons_of_neg (by rw [isWordChar_of_isGap hc]; decide), List.append_nil] at htake
    rw [← htake, String.ofList_toList, List.contains_iff_mem.mpr hv] at hreserved
    cases hreserved

theorem Opens.exists_cons (h : Opens s w r) : ∃ c t, s = c :: t ∧ isGap c = false := by
  cases h with
  | quoted hw r => exact ⟨_, _, rfl, by decide⟩
  | word hne hw hr _ =>
    obtain ⟨c, w, rfl⟩ := List.exists_cons_of_ne_nil hne
    refine ⟨c, w ++ r, rfl, ?_⟩
    rw [Bool.eq_false_iff]
    intro hc
    have := hw c (List.mem_cons_self ..)
    rw [isWordChar_of_isGap hc] at this
    cases this

theorem BeginsPart.exists_cons (h : BeginsPart s p r) : ∃ c t, s = c :: t ∧ isGap c = false := by
  cases h with
  | text _ h => exact h.exists_cons
  | not _ _ _ => exact ⟨'N', _, rfl, by decide⟩

theorem BeginsPart.skipGap_eq (h : BeginsPart s p r) : skipGap s = s := by
  obtain ⟨c, t, rfl, hc⟩ := h.exists_cons
  exact List.dropWhile_cons_of_neg (by rw [hc]; decide)

theorem Opens.length_lt (h : Opens s w r) : r.length < s.length := by
  cases h with
  | quoted hw r => simp; omega
  | word hne _ _ _ =>
    have := List.length_pos_iff.mpr hne
    rw [List.length_append]
    omega

theorem BeginsPart.length_lt (h : BeginsPart s p r) : r.length < s.length := by
  induction h with
  | text _ h => exact h.length_lt
  | not _ _ _ ih =>
    rw [List.length_append, List.length_append]
    omega

/-- A part does not begin with a junction. -/
theorem BeginsPart.takeJunction_eq (h : BeginsPart s p r) : takeJunction s = (none, s) := by
  have hnone {tag v : String} (htag : tag.toList = v.toList ++ [' ']) (hv : v ∈ reservedWords)
      (hhead : tag.toList.head? ≠ some 'N') : takeTag tag s = none := by
    rw [Option.eq_none_iff_forall_ne_some]
    intro t ht
    rw [takeTag_eq_some_iff] at ht
    cases h with
    | text _ h =>
      rw [htag, List.append_assoc] at ht
      exact h.ne_reserved hv (by decide) t ht
    | not _ _ _ =>
      refine hhead ?_
      cases htag : tag.toList with
      | nil => simp [htag] at *
      | cons d l =>
        rw [htag] at ht
        exact congrArg some (List.cons.inj ht).1.symm
  have hor : takeTag "OR " s = none := hnone (v := "OR") (by decide) (by decide) (by decide)
  have hand : takeTag "AND " s = none := hnone (v := "AND") (by decide) (by decide) (by decide)
  rw [takeJunction, hor, hand]

end Beginnings

/-! ### Parts without a field -/

section Parts

variable {s : List Char}

theorem takePhrase_escaped (s : List Char) : takePhrase (escaped s) =
    (takeText (escaped s)).map fun p => (.literal none p.1 0 false, p.2) := by
  unfold takePhrase
  cases h : takeText (escaped s) with
  | none => rfl
  | some p =>
    obtain ⟨x, r'⟩ := p
    obtain ⟨w, r, -, -, rfl⟩ := exists_opens_of_takeText h
    rw [Option.bind_eq_bind, Option.bind_some, Option.map_some]
    simp only [takeSlop_escaped]
    rfl

theorem takeBare_escaped (s : List Char) : takeBare (escaped s) =
    (takeComparison (escaped s) <|> takePhrase (escaped s)) := by
  rw [takeBare, takeInterval_escaped, takeSet_escaped, takePresent_escaped]
  cases takeComparison (escaped s) <;> rfl

/-- A part of an escaped text is a negated part, a comparison or a text. -/
theorem takeLeaf_escaped (n : Nat) (s : List Char) : takeLeaf (n + 1) (escaped s) =
    ((((takeTag "NOT" s).bind takeGap).bind fun t => (takeLeaf n (escaped t)).map
      fun p => (p.1.negated, p.2)) <|> takeBare (escaped s)) := by
  have hfielded : takeFielded (escaped s) = takeBare (escaped s) := by
    rw [takeFielded, takeFieldName_escaped]
  rw [takeLeaf]
  · rw [hfielded, takeFieldName_escaped, takeTag_escaped (by decide)]
    have hnot : ((((takeTag "NOT" s).map escaped).bind fun r => (takeGap r).bind fun r =>
        (takeLeaf n r).bind fun p => some (p.1.negated, p.2)) <|> takeBare (escaped s)) =
        ((((takeTag "NOT" s).bind takeGap).bind fun t => (takeLeaf n (escaped t)).map
          fun p => (p.1.negated, p.2)) <|> takeBare (escaped s)) := by
      congr 1
      cases takeTag "NOT" s with
      | none => rfl
      | some r =>
        rw [Option.map_some, Option.bind_some, Option.bind_some, takeGap_escaped]
        cases takeGap r with
        | none => rfl
        | some t =>
          rw [Option.map_some, Option.bind_some, Option.bind_some]
          cases takeLeaf n (escaped t) <;> rfl
    rw [← hnot]
    congr 1
    cases takeBare (escaped s) <;> rfl
  · exact fun r h => escaped_ne_cons (by decide) (by decide) s r h
  · exact fun r h => escaped_ne_cons (by decide) (by decide) s r h

/-- **A part at the front of a text is read.** -/
theorem BeginsPart.exists_takeLeaf {p : PlainPart} {r : List Char} (h : BeginsPart s p r) {n : Nat}
    (hn : s.length < n) : ∃ e, Reads e p ∧ takeLeaf n (escaped s) = some (e, escaped r) := by
  induction h generalizing n with
  | @text s w r hcomparison h =>
    obtain ⟨x, hx, htake⟩ := h.exists_takeText
    refine ⟨.literal none x 0 false, ⟨x, hx, rfl⟩, ?_⟩
    obtain ⟨n, rfl⟩ : ∃ m, n = m + 1 := ⟨n - 1, by omega⟩
    have hskip : skipGap s = s := (BeginsPart.text hcomparison h).skipGap_eq
    have hnot : (takeTag "NOT" s).bind takeGap = none := by
      rw [Option.bind_eq_none_iff]
      intro t ht
      rw [Option.eq_none_iff_forall_ne_some]
      intro u hu
      obtain ⟨g, hne, hg, rfl, -⟩ := exists_of_takeGap hu
      obtain ⟨c, g, rfl⟩ := List.exists_cons_of_ne_nil hne
      exact h.ne_reserved (v := "NOT") (by decide) (hg c (List.mem_cons_self ..)) _
        (takeTag_eq_some_iff.mp ht)
    have hcompare : takeComparison (escaped s) = none := by
      rw [← Option.not_isSome_iff_eq_none, isSome_takeComparison_escaped, hskip, hcomparison]
      decide
    rw [takeLeaf_escaped, hnot, takeBare_escaped, hcompare, takePhrase_escaped, htake]
    rfl
  | @not g s r p hne hg h ih =>
    obtain ⟨n, rfl⟩ : ∃ m, n = m + 1 := ⟨n - 1, by omega⟩
    obtain ⟨e, ⟨x, hx, rfl⟩, htake⟩ := ih (n := n) (by
      have := List.length_pos_iff.mpr hne
      rw [List.length_append, List.length_append] at hn
      omega)
    refine ⟨_, ⟨x, hx, (Function.iterate_succ_apply' ..).symm⟩, ?_⟩
    rw [takeLeaf_escaped, takeTag_eq_some_iff.mpr rfl, Option.bind_some, takeGap_append hne hg,
      h.skipGap_eq, Option.bind_some, htake]
    rfl

theorem exists_opens_of_takeBare {e : Expression} {r' : List Char}
    (h : takeBare (escaped s) = some (e, r')) : IsUnplaced e ∨
      ∃ w r, beginsComparison s = false ∧ Opens s w r ∧ Reads e ⟨0, w⟩ ∧ r' = escaped r := by
  rw [takeBare_escaped] at h
  cases hcompare : takeComparison (escaped s) with
  | some p =>
    rw [hcompare] at h
    obtain rfl := Option.some.inj h
    obtain ⟨lower, upper, rfl⟩ := exists_range_of_takeComparison hcompare
    exact .inl fun scope => rfl
  | none =>
    rw [hcompare, takePhrase_escaped] at h
    obtain ⟨⟨x, r''⟩, htake, heq⟩ := Option.map_eq_some_iff.mp h
    obtain ⟨rfl, rfl⟩ := Prod.mk.inj heq
    obtain ⟨w, r, hopens, hx, rfl⟩ := exists_opens_of_takeText htake
    refine .inr ⟨w, r, ?_, hopens, ⟨x, hx, rfl⟩, rfl⟩
    obtain ⟨c, t, rfl, hc⟩ := hopens.exists_cons
    have hskip : skipGap (c :: t) = c :: t := List.dropWhile_cons_of_neg (by rw [hc]; decide)
    rw [← hskip, ← isSome_takeComparison_escaped, hcompare]
    rfl

/-- **What is read at the front of an escaped text** is a part, or has no meaning. -/
theorem exists_beginsPart_of_takeLeaf {n : Nat} {e : Expression} {r' : List Char}
    (h : takeLeaf n (escaped s) = some (e, r')) :
    IsUnplaced e ∨ ∃ p r, BeginsPart s p r ∧ Reads e p ∧ r' = escaped r := by
  induction n generalizing s e r' with
  | zero => cases h
  | succ n ih =>
    rw [takeLeaf_escaped] at h
    cases hnot : ((takeTag "NOT" s).bind takeGap).bind fun t =>
        (takeLeaf n (escaped t)).map fun p => (p.1.negated, p.2) with
    | some q =>
      rw [hnot] at h
      obtain rfl := Option.some.inj h
      obtain ⟨t, hgap, hleaf⟩ := Option.bind_eq_some_iff.mp hnot
      obtain ⟨u, htag, hgap⟩ := Option.bind_eq_some_iff.mp hgap
      obtain ⟨⟨e, r⟩, htake, heq⟩ := Option.map_eq_some_iff.mp hleaf
      obtain ⟨rfl, rfl⟩ := Prod.mk.inj heq
      rcases ih htake with hnone | ⟨p, r, hp, ⟨x, hx, rfl⟩, rfl⟩
      · exact .inl hnone.negated
      · obtain ⟨g, hne, hg, rfl, -⟩ := exists_of_takeGap hgap
        obtain rfl := takeTag_eq_some_iff.mp htag
        exact .inr ⟨_, r, .not hne hg hp, ⟨x, hx, (Function.iterate_succ_apply' ..).symm⟩, rfl⟩
    | none =>
      rw [hnot] at h
      refine (exists_opens_of_takeBare h).imp_right ?_
      rintro ⟨w, r, hcomparison, hopens, hreads, rfl⟩
      exact ⟨_, r, .text hcomparison hopens, hreads, rfl⟩

end Parts

/-! ### Parts in a row -/

section Rows

variable {s : List Char}

/-- A part with its junction and sign as it is read from an escaped text, which has no signs. -/
def ReadsPart (q : JoinedPart) (p : PlainPart) : Prop :=
  q.2.1 = none ∧ Reads q.2.2 p

theorem takeSigned_escaped (n : Nat) (s : List Char) : takeSigned (n + 1) (escaped s) =
    (takeLeaf n (escaped s)).map fun p =>
      ((none, (takeBoost p.1 p.2).1), (takeBoost p.1 p.2).2) := by
  rw [takeSigned]
  simp only [takeSign_escaped]
  cases takeLeaf n (escaped s) <;> rfl

theorem BeginsPart.exists_takeSigned {p : PlainPart} {r : List Char} (h : BeginsPart s p r)
    {n : Nat} (hn : s.length + 1 < n) :
    ∃ e, Reads e p ∧ takeSigned n (escaped s) = some ((none, e), escaped r) := by
  obtain ⟨n, rfl⟩ : ∃ m, n = m + 1 := ⟨n - 1, by omega⟩
  obtain ⟨e, he, htake⟩ := h.exists_takeLeaf (n := n) (by omega)
  refine ⟨e, he, ?_⟩
  rw [takeSigned_escaped, htake, Option.map_some, takeBoost_escaped]

theorem IsUnplaced.boost {e : Expression} (h : IsUnplaced e) (r : List Char) :
    IsUnplaced (takeBoost e r).1 := by
  have hboost (x : Float) : IsUnplaced (.boost e x) := fun scope => by
    rw [meaning?, h scope]
    rfl
  unfold takeBoost
  split
  · split
    · split
      · split
        · exact hboost _
        · exact h
      · exact h
    · exact h
  · exact h

theorem exists_beginsPart_of_takeSigned {n : Nat} {q : Option Occur × Expression} {r' : List Char}
    (h : takeSigned n (escaped s) = some (q, r')) :
    IsUnplaced q.2 ∨ ∃ p r, BeginsPart s p r ∧ q.1 = none ∧ Reads q.2 p ∧ r' = escaped r := by
  cases n with
  | zero => cases h
  | succ n =>
    rw [takeSigned_escaped] at h
    obtain ⟨⟨e, r⟩, htake, heq⟩ := Option.map_eq_some_iff.mp h
    obtain ⟨rfl, rfl⟩ := Prod.mk.inj heq
    rcases exists_beginsPart_of_takeLeaf htake with hnone | ⟨p, r, hp, he, rfl⟩
    · exact .inl (hnone.boost _)
    · refine .inr ⟨p, r, hp, rfl, ?_, ?_⟩ <;> simp only [takeBoost_escaped]
      exact he

theorem takeJunction_escaped (s : List Char) :
    takeJunction (escaped s) = ((takeJunction s).1, escaped (takeJunction s).2) := by
  rw [takeJunction, takeJunction, takeTag_escaped (by decide), takeTag_escaped (by decide)]
  cases takeTag "OR " s with
  | some r => rfl
  | none => cases takeTag "AND " s <;> rfl

theorem takeFurther_succ (n : Nat) (s : List Char) :
    takeFurther (n + 1) s =
      match takeSigned n (skipGap (takeJunction s).2) with
      | none => ([], s)
      | some (q, r) =>
        (((takeJunction s).1, q) :: (takeFurther n (skipGap r)).1,
          (takeFurther n (skipGap r)).2) := by
  rw [takeFurther]
  generalize takeJunction s = j
  obtain ⟨j, r⟩ := j
  dsimp only
  cases takeSigned n (skipGap r) <;> rfl

theorem takeFurther_escaped (n : Nat) (s : List Char) :
    takeFurther (n + 1) (escaped s) =
      match takeSigned n (escaped (skipGap (takeJunction s).2)) with
      | none => ([], escaped s)
      | some (q, r) =>
        (((takeJunction s).1, q) :: (takeFurther n (skipGap r)).1,
          (takeFurther n (skipGap r)).2) := by
  rw [takeFurther_succ, takeJunction_escaped, skipGap_escaped]

theorem takeFurther_nil (n : Nat) : takeFurther n [] = ([], []) := by
  cases n with
  | zero => rfl
  | succ n =>
    cases n with
    | zero => rfl
    | succ n => cases n <;> rfl

/-- A part with the rest of the row behind it. -/
theorem BeginsPart.exists_takeFurther {t r : List Char} {j : Option Junction} {p : PlainPart}
    {ps : List PlainPart} (h : BeginsPart t p r)
    (hjunction : (takeJunction s).1 = j ∧ skipGap (takeJunction s).2 = t) {n : Nat}
    (hn : t.length + 1 < n)
    (hrest : ∃ l, List.Forall₂ ReadsPart l ps ∧ takeFurther n (escaped (skipGap r)) = (l, [])) :
    ∃ l, List.Forall₂ ReadsPart l (p :: ps) ∧ takeFurther (n + 1) (escaped s) = (l, []) := by
  obtain ⟨e, he, htake⟩ := h.exists_takeSigned hn
  obtain ⟨l, hl, hrest⟩ := hrest
  refine ⟨(j, none, e) :: l, .cons ⟨rfl, he⟩ hl, ?_⟩
  rw [takeFurther_escaped, hjunction.2, htake, hjunction.1]
  simp only [skipGap_escaped, hrest]

/-- **The parts of a text are read up to its end.** -/
theorem Continues.exists_takeFurther {ps : List PlainPart} (h : Continues s ps) {n : Nat}
    (hn : s.length + 2 < n) :
    ∃ l, List.Forall₂ ReadsPart l ps ∧ takeFurther n (escaped s) = (l, []) := by
  induction h generalizing n with
  | nil => exact ⟨[], .nil, takeFurther_nil n⟩
  | @part s r p ps h _ ih =>
    obtain ⟨n, rfl⟩ : ∃ m, n = m + 1 := ⟨n - 1, by omega⟩
    have hlength := h.length_lt
    have hskip := length_skipGap_le r
    refine h.exists_takeFurther (j := none) ?_ (by omega) (ih (by omega))
    rw [h.takeJunction_eq]
    exact ⟨rfl, h.skipGap_eq⟩
  | @joined j g s r p ps hj hg h _ ih =>
    obtain ⟨n, rfl⟩ : ∃ m, n = m + 1 := ⟨n - 1, by omega⟩
    have hlength := h.length_lt
    have hskip := length_skipGap_le r
    rw [List.length_append, List.length_append] at hn
    have htail : skipGap (g ++ s) = s := (skipGap_append hg s).trans h.skipGap_eq
    rcases hj with rfl | rfl
    · refine h.exists_takeFurther (j := some .or) ?_ (by omega) (ih (by omega))
      rw [takeJunction, takeTag_eq_some_iff.mpr rfl]
      exact ⟨rfl, htail⟩
    · have hor : takeTag "OR " ("AND ".toList ++ (g ++ s)) = none := rfl
      refine h.exists_takeFurther (j := some .and) ?_ (by omega) (ih (by omega))
      rw [takeJunction, hor, takeTag_eq_some_iff.mpr rfl]
      exact ⟨rfl, htail⟩

theorem takeJunction_cases (s : List Char) : takeJunction s = (none, s) ∨
    ∃ j : String, (j = "OR " ∨ j = "AND ") ∧ s = j.toList ++ (takeJunction s).2 := by
  rw [takeJunction]
  cases hor : takeTag "OR " s with
  | some r => exact .inr ⟨"OR ", .inl rfl, takeTag_eq_some_iff.mp hor⟩
  | none =>
    cases hand : takeTag "AND " s with
    | some r => exact .inr ⟨"AND ", .inr rfl, takeTag_eq_some_iff.mp hand⟩
    | none => exact .inl rfl

/-- **What is read up to the end of an escaped text** are its parts, or one has no meaning. -/
theorem exists_continues_of_takeFurther {n : Nat} {l : List JoinedPart} (hs : skipGap s = s)
    (h : takeFurther n (escaped s) = (l, [])) :
    (∃ q ∈ l, IsUnplaced q.2.2) ∨ ∃ ps, Continues s ps ∧ List.Forall₂ ReadsPart l ps := by
  have hnil {s : List Char} {l : List JoinedPart} (h : ([], escaped s) = (l, [])) :
      ∃ ps, Continues s ps ∧ List.Forall₂ ReadsPart l ps := by
    obtain ⟨rfl, hs⟩ := Prod.mk.inj h
    rw [escaped_eq_nil_iff.mp hs]
    exact ⟨[], .nil, .nil⟩
  induction n generalizing s l with
  | zero => exact .inr (hnil h)
  | succ n ih =>
    rw [takeFurther_escaped] at h
    cases htake : takeSigned n (escaped (skipGap (takeJunction s).2)) with
    | none =>
      rw [htake] at h
      exact .inr (hnil h)
    | some q =>
      obtain ⟨q, r'⟩ := q
      rw [htake] at h
      obtain ⟨rfl, hrest⟩ := Prod.mk.inj h
      rcases exists_beginsPart_of_takeSigned htake with hnone | ⟨p, r, hp, hsign, he, rfl⟩
      · exact .inl ⟨_, List.mem_cons_self .., hnone⟩
      · rw [skipGap_escaped] at hrest ⊢
        rcases ih (skipGap_skipGap r) (Prod.ext rfl hrest) with ⟨q, hq, hnone⟩ | ⟨ps, hps, hl⟩
        · exact .inl ⟨q, List.mem_cons_of_mem _ hq, hnone⟩
        · refine .inr ⟨p :: ps, ?_, .cons ⟨hsign, he⟩ hl⟩
          rcases takeJunction_cases s with hjunction | ⟨j, hj, heq⟩
          · rw [hjunction, hs] at hp
            exact .part hp hps
          · obtain ⟨g, hg, hgap⟩ := exists_gaps (takeJunction s).2
            rw [heq, hgap]
            exact .joined hj hg hp hps

/-- The rest behind a row of parts begins with no gap. -/
theorem skipGap_takeFurther (n : Nat) {s : List Char} (hs : skipGap s = s) :
    skipGap (takeFurther n s).2 = (takeFurther n s).2 := by
  induction n generalizing s with
  | zero => exact hs
  | succ n ih =>
    rw [takeFurther_succ]
    cases takeSigned n (skipGap (takeJunction s).2) with
    | none => exact hs
    | some q => exact ih (skipGap_skipGap q.2)

end Rows

/-! ### Whole texts -/

section Texts

variable {s : List Char} {ps : List PlainPart}

theorem isUnplaced_joined {l : List JoinedPart} (h : ∃ q ∈ l, IsUnplaced q.2.2) :
    IsUnplaced (joined l) := by
  obtain ⟨q, hq, hnone⟩ := h
  rw [isUnplaced_iff] at hnone ⊢
  intro scope
  rw [negativity_joined, allNegative_eq_none_iff, List.mem_map]
  refine ⟨q, hq, ?_⟩
  rw [joinedNegativity, partNegativity, hnone scope]
  rfl

theorem length_le_length_escaped (s : List Char) : s.length ≤ (escaped s).length := by
  induction s with
  | nil => exact Nat.le_refl _
  | cons c s ih =>
    rw [escaped_cons, List.length_append, List.length_cons, escapeChar]
    split <;> simp only [List.length_cons, List.length_nil] <;> omega

/-- The parts behind the first one: there are none unless there is a gap. -/
def behindFirst (n : Nat) (s : List Char) : List JoinedPart × List Char :=
  match takeGap s with
  | some t => takeFurther n t
  | none => ([], s)

theorem takeParts_succ (n : Nat) (s : List Char) : takeParts (n + 1) s =
    (takeSigned n (skipGap s)).map fun q =>
      if (behindFirst n q.2).1.isEmpty then
        (if q.1.1 == some .mustNot then q.1.2.negated else q.1.2, skipGap q.2)
      else (joined ((none, q.1) :: (behindFirst n q.2).1), skipGap (behindFirst n q.2).2) := by
  rw [takeParts]
  cases takeSigned n (skipGap s) with
  | none => rfl
  | some q =>
    obtain ⟨⟨sign, e⟩, r⟩ := q
    rw [Option.map_some, Option.bind_eq_bind, Option.bind_some]
    change (if (behindFirst n r).1.isEmpty then
        some (if sign == some .mustNot then e.negated else e, skipGap r)
      else some (joined ((none, sign, e) :: (behindFirst n r).1), skipGap (behindFirst n r).2)) =
      some (if (behindFirst n r).1.isEmpty then
        (if sign == some .mustNot then e.negated else e, skipGap r)
      else (joined ((none, sign, e) :: (behindFirst n r).1), skipGap (behindFirst n r).2))
    cases (behindFirst n r).1.isEmpty <;> rfl

theorem behindFirst_of_isGaps (n : Nat) {r : List Char} (hr : IsGaps r) :
    behindFirst n (escaped r) = ([], []) := by
  cases r with
  | nil => rfl
  | cons c r =>
    rw [IsGaps, List.forall_mem_cons] at hr
    rw [behindFirst, takeGap_escaped, takeGap, if_pos hr.1, isGaps_iff.mp hr.2]
    exact takeFurther_nil n

/-- **The parts of a whole text are read.** -/
theorem Layout.exists_takeParts (h : Layout s ps) {n : Nat} (hn : s.length + 3 < n) :
    ∃ l, List.Forall₂ ReadsPart l ps ∧ takeParts n (escaped s) = some (joined l, []) := by
  obtain ⟨n, rfl⟩ : ∃ m, n = m + 1 := ⟨n - 1, by omega⟩
  cases h with
  | @single g s r p hg h hr =>
    rw [List.length_append] at hn
    obtain ⟨e, he, htake⟩ := h.exists_takeSigned (n := n) (by omega)
    refine ⟨[(none, none, e)], .cons ⟨rfl, he⟩ .nil, ?_⟩
    rw [takeParts_succ, skipGap_escaped, skipGap_append hg, h.skipGap_eq, htake, Option.map_some,
      behindFirst_of_isGaps n hr, skipGap_escaped, isGaps_iff.mp hr]
    rfl
  | @several g s r c p ps hg h hc hrest hne =>
    rw [List.length_append] at hn
    have hlength := h.length_lt
    have hskip := length_skipGap_le r
    rw [List.length_cons] at hlength
    obtain ⟨e, he, htake⟩ := h.exists_takeSigned (n := n) (by omega)
    obtain ⟨l, hl, hfurther⟩ := hrest.exists_takeFurther (n := n) (by omega)
    refine ⟨(none, none, e) :: l, .cons ⟨rfl, he⟩ hl, ?_⟩
    have hbehind : behindFirst n (escaped (c :: r)) = (l, []) := by
      rw [behindFirst, takeGap_escaped, takeGap, if_pos hc]
      exact hfurther
    have hempty : l.isEmpty = false := by
      cases hl with
      | nil => exact absurd rfl hne
      | cons _ _ => rfl
    rw [takeParts_succ, skipGap_escaped, skipGap_append hg, h.skipGap_eq, htake, Option.map_some,
      hbehind, hempty]
    rfl

/-- What is read behind the first part stands behind a gap. -/
theorem exists_continues_of_behindFirst {n : Nat} {r : List Char}
    (hempty : ¬ (behindFirst n (escaped r)).1.isEmpty = true)
    (hrest : Expression.skipGap (behindFirst n (escaped r)).2 = []) :
    (∃ q ∈ (behindFirst n (escaped r)).1, IsUnplaced q.2.2) ∨
      ∃ c t ps, r = c :: t ∧ isGap c = true ∧ Continues (skipGap t) ps ∧ ps ≠ [] ∧
        List.Forall₂ ReadsPart (behindFirst n (escaped r)).1 ps := by
  cases hgap : takeGap r with
  | none =>
    rw [behindFirst, takeGap_escaped, hgap] at hempty
    exact absurd rfl hempty
  | some t =>
    have hbehind : behindFirst n (escaped r) = takeFurther n (escaped t) := by
      rw [behindFirst, takeGap_escaped, hgap]
      rfl
    obtain ⟨g, hne, hg, rfl, ht⟩ := exists_of_takeGap hgap
    have ht' : skipGap (escaped t) = escaped t := by rw [skipGap_escaped, ht]
    rw [hbehind] at hempty hrest ⊢
    rw [skipGap_takeFurther n ht'] at hrest
    have hread : takeFurther n (escaped t) = ((takeFurther n (escaped t)).1, []) :=
      Prod.ext rfl hrest
    refine (exists_continues_of_takeFurther ht hread).imp_right fun ⟨ps, hps, hl⟩ => ?_
    obtain ⟨c, g, rfl⟩ := List.exists_cons_of_ne_nil hne
    rw [IsGaps, List.forall_mem_cons] at hg
    refine ⟨c, g ++ t, ps, rfl, hg.1, by rwa [skipGap_append hg.2, ht], ?_, hl⟩
    rintro rfl
    rw [List.forall₂_nil_right_iff.mp hl] at hempty
    exact hempty rfl

/-- **What is read of a whole escaped text** is its parts, or it has no meaning. -/
theorem exists_layout_of_takeParts {n : Nat} {e : Expression}
    (h : takeParts n (escaped s) = some (e, [])) : IsUnplaced e ∨
      ∃ l ps, Layout s ps ∧ List.Forall₂ ReadsPart l ps ∧ e = joined l := by
  cases n with
  | zero => cases h
  | succ n =>
    obtain ⟨g, hg, hs⟩ := exists_gaps s
    rw [takeParts_succ, skipGap_escaped] at h
    obtain ⟨⟨⟨sign, e⟩, r'⟩, htake, heq⟩ := Option.map_eq_some_iff.mp h
    dsimp only at heq
    rcases exists_beginsPart_of_takeSigned htake with hnone | ⟨p, r, hp, hsign, he, hr⟩
    · refine .inl ?_
      split at heq
      · obtain ⟨rfl, -⟩ := Prod.mk.inj heq
        split
        · exact hnone.negated
        · exact hnone
      · obtain ⟨rfl, -⟩ := Prod.mk.inj heq
        exact isUnplaced_joined ⟨_, List.mem_cons_self .., hnone⟩
    · obtain rfl : sign = none := hsign
      obtain rfl : r' = escaped r := hr
      split at heq
      · obtain ⟨rfl, hrest⟩ := Prod.mk.inj heq
        rw [skipGap_escaped, escaped_eq_nil_iff, ← isGaps_iff] at hrest
        rw [hs]
        exact .inr ⟨[(none, none, e)], [p], .single hg hp hrest, .cons ⟨rfl, he⟩ .nil, rfl⟩
      · next hempty =>
        obtain ⟨rfl, hrest⟩ := Prod.mk.inj heq
        rcases exists_continues_of_behindFirst hempty hrest with
          ⟨q, hq, hnone⟩ | ⟨c, t, ps, rfl, hc, hps, hne, hl⟩
        · exact .inl (isUnplaced_joined ⟨q, List.mem_cons_of_mem _ hq, hnone⟩)
        · rw [hs]
          exact .inr ⟨_, p :: ps, .several hg hp hc hps hne, .cons ⟨rfl, he⟩ hl, rfl⟩

theorem Layout.skipGap (h : Layout s ps) : Layout (skipGap s) ps := by
  cases h with
  | single hg h hr =>
    rw [skipGap_append hg, h.skipGap_eq]
    exact .single (g := []) nofun h hr
  | several hg h hc hrest hne =>
    rw [skipGap_append hg, h.skipGap_eq]
    exact .several (g := []) nofun h hc hrest hne

theorem Layout.append_gaps (h : Layout s ps) {g : List Char} (hg : IsGaps g) :
    Layout (g ++ s) ps := by
  cases h with
  | single hg' h hr =>
    rw [← List.append_assoc]
    exact .single (List.forall_mem_append.mpr ⟨hg, hg'⟩) h hr
  | several hg' h hc hrest hne =>
    rw [← List.append_assoc]
    exact .several (List.forall_mem_append.mpr ⟨hg, hg'⟩) h hc hrest hne

theorem Layout.skipGap_ne_nil (h : Layout s ps) : Expression.skipGap s ≠ [] := by
  have hne {t r : List Char} {p : PlainPart} (h : BeginsPart t p r) : t ≠ [] := by
    obtain ⟨c, t, rfl, -⟩ := h.exists_cons
    exact List.cons_ne_nil _ _
  cases h with
  | single hg h hr => rw [skipGap_append hg, h.skipGap_eq]; exact hne h
  | several hg h hc hrest _ => rw [skipGap_append hg, h.skipGap_eq]; exact hne h

theorem read?_escapeExpression {t : String} (ht : Expression.skipGap t.toList ≠ []) :
    read? (escapeExpression t) =
      match takeParts (4 * (escaped (Expression.skipGap t.toList)).length + 4)
        (escaped (Expression.skipGap t.toList)) with
      | some (e, []) => some e.flattened
      | _ => none := by
  have hempty : ¬ (escaped (Expression.skipGap t.toList)).isEmpty = true := by
    rw [List.isEmpty_iff, escaped_eq_nil_iff]
    exact ht
  rw [read?, toList_escapeExpression, skipGap_escaped]
  exact if_neg hempty

/-- **A text with a layout is read as its parts.** -/
theorem Layout.exists_read? {t : String} (h : Layout t.toList ps) :
    ∃ l, List.Forall₂ ReadsPart l ps ∧ read? (escapeExpression t) = some (joined l).flattened := by
  have hlength := length_le_length_escaped (Expression.skipGap t.toList)
  obtain ⟨l, hl, htake⟩ := h.skipGap.exists_takeParts
    (n := 4 * (escaped (Expression.skipGap t.toList)).length + 4) (by
      have := List.length_pos_iff.mpr h.skipGap_ne_nil
      omega)
  refine ⟨l, hl, ?_⟩
  rw [read?_escapeExpression h.skipGap_ne_nil, htake]

/-- **What is read of an escaped text that is not blank** is its parts, or it has no meaning. -/
theorem exists_layout_of_read? {t : String} {e : Expression} (ht : isBlankText t = false)
    (h : read? (escapeExpression t) = some e) : (∀ scope, negativity scope e = none) ∨
      ∃ l ps, Layout t.toList ps ∧ List.Forall₂ ReadsPart l ps ∧ e = (joined l).flattened := by
  have hne : Expression.skipGap t.toList ≠ [] := by
    intro hnil
    have hblank : isBlankText t = true :=
      List.all_eq_true.mpr fun c hc => isBlank_of_isGap (isGaps_iff.mpr hnil c hc)
    rw [ht] at hblank
    cases hblank
  rw [read?_escapeExpression hne] at h
  split at h
  · next e' htake =>
    obtain rfl := Option.some.inj h
    rcases exists_layout_of_takeParts htake with hnone | ⟨l, ps, hps, hl, rfl⟩
    · refine .inl fun scope => ?_
      rw [negativity_flattened]
      exact isUnplaced_iff.mp hnone scope
    · obtain ⟨g, hg, hs⟩ := exists_gaps t.toList
      rw [hs]
      exact .inr ⟨l, ps, hps.append_gaps hg, hl, rfl⟩
  · cases h

end Texts

end Catalog.Expression
