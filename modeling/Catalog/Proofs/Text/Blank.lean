import Catalog.Text.Blank
import Mathlib.Data.List.TakeWhile

/-!
# Cutting and trimming texts

A text that was put together with separators is cut at them into what it was put together from, and
trimming leaves a text without blanks alone.

## Main definitions

* `IsPiece`, `IsWordOf`: the pieces and the words of a text
* `AgreesBy`: texts with the same words

## Main results

* `isBlank_of_visible`: which ASCII characters are never trimmed
* `pieces_append_cons`, `pieces_of_forall`: what `pieces` does at the first separator and without
  one
* `mem_pieces_iff`, `mem_wordsBy_iff`: `pieces` gives the pieces and `wordsBy` the words
* `pieces_induction`: induction along the pieces of a text
* `trimChars_of_forall`: a text without blanks is not trimmed
* `trim_ne_empty`: what is not blank is not trimmed to nothing
* `wordsBy_trimChars`: trimming does not change the words
-/

namespace Catalog

/-- Visible ASCII characters are not blank. -/
theorem isBlank_of_visible {c : Char} (hl : 33 ≤ c.toNat) (hg : c.toNat ≤ 126) :
    isBlank c = false := by
  rw [Bool.eq_false_iff]
  intro hb
  obtain ⟨r, hr, h₁, h₂⟩ := CharClass.contains_iff.mp hb
  simp only [blankClass, List.mem_cons, List.not_mem_nil, or_false] at hr
  rcases hr with rfl | rfl | rfl | rfl | rfl | rfl | rfl | rfl | rfl | rfl <;> omega

/-! ### Pieces -/

variable {isSep : Char → Bool}

theorem pieces_cons_of_sep {c : Char} (hc : isSep c = true) (s : List Char) :
    pieces isSep (c :: s) = [] :: pieces isSep s := by
  rw [pieces, if_pos hc]

theorem pieces_cons_of_not_sep {c : Char} (hc : isSep c = false) {s p : List Char}
    {ps : List (List Char)} (hs : pieces isSep s = p :: ps) :
    pieces isSep (c :: s) = (c :: p) :: ps := by
  rw [pieces, if_neg (by rw [hc]; decide), hs]

/-- Without a separator a text is one piece. -/
theorem pieces_of_forall {s : List Char} (hs : ∀ c ∈ s, isSep c = false) :
    pieces isSep s = [s] := by
  induction s with
  | nil => rfl
  | cons c s ih =>
    exact pieces_cons_of_not_sep (hs c (List.mem_cons_self ..))
      (ih fun d hd => hs d (List.mem_cons_of_mem _ hd))

/-- The first separator ends the first piece. -/
theorem pieces_append_cons {a : List Char} (ha : ∀ c ∈ a, isSep c = false) {sep : Char}
    (hsep : isSep sep = true) (b : List Char) :
    pieces isSep (a ++ sep :: b) = a :: pieces isSep b := by
  induction a with
  | nil => exact pieces_cons_of_sep hsep b
  | cons c a ih =>
    exact pieces_cons_of_not_sep (ha c (List.mem_cons_self ..))
      (ih fun d hd => ha d (List.mem_cons_of_mem _ hd))

theorem exists_pieces_eq_cons (s : List Char) : ∃ p ps, pieces isSep s = p :: ps := by
  induction s with
  | nil => exact ⟨[], [], rfl⟩
  | cons c s ih =>
    obtain ⟨p, ps, hs⟩ := ih
    cases hc : isSep c with
    | true => exact ⟨[], pieces isSep s, pieces_cons_of_sep hc s⟩
    | false => exact ⟨c :: p, ps, pieces_cons_of_not_sep hc hs⟩

/-- A separator ends the pieces in front of it. -/
theorem pieces_append_sep {sep : Char} (hsep : isSep sep = true) (a b : List Char) :
    pieces isSep (a ++ sep :: b) = pieces isSep a ++ pieces isSep b := by
  induction a with
  | nil => exact pieces_cons_of_sep hsep b
  | cons c a ih =>
    cases hc : isSep c with
    | true =>
      rw [List.cons_append, pieces_cons_of_sep hc, ih, pieces_cons_of_sep hc, List.cons_append]
    | false =>
      obtain ⟨p, ps, ha⟩ := exists_pieces_eq_cons a
      rw [ha, List.cons_append] at ih
      rw [List.cons_append, pieces_cons_of_not_sep hc ih, pieces_cons_of_not_sep hc ha,
        List.cons_append]

/-! ### Words -/

/-- A piece of a text: a run without separators, with a separator or an end of the text on either
side. -/
structure IsPiece (isSep : Char → Bool) (p s : List Char) : Prop where
  forall_not_sep : ∀ c ∈ p, isSep c = false
  exists_append : ∃ a b, s = a ++ p ++ b ∧ (∀ c ∈ a.getLast?, isSep c = true) ∧
    ∀ c ∈ b.head?, isSep c = true

/-- A word of a text: a piece that is not empty. -/
structure IsWordOf (isSep : Char → Bool) (w s : List Char) : Prop extends IsPiece isSep w s where
  ne_nil : w ≠ []

/-- A text is without separators, or there is a first one. -/
theorem forall_or_exists_append_cons (isSep : Char → Bool) (s : List Char) :
    (∀ c ∈ s, isSep c = false) ∨
      ∃ a sep b, s = a ++ sep :: b ∧ (∀ c ∈ a, isSep c = false) ∧ isSep sep = true := by
  induction s with
  | nil => exact .inl nofun
  | cons c s ih =>
    cases hc : isSep c with
    | true => exact .inr ⟨[], c, s, rfl, nofun, hc⟩
    | false =>
      rcases ih with h | ⟨a, sep, b, rfl, ha, hsep⟩
      · exact .inl (List.forall_mem_cons.mpr ⟨hc, h⟩)
      · exact .inr ⟨c :: a, sep, b, rfl, List.forall_mem_cons.mpr ⟨hc, ha⟩, hsep⟩

/-- Induction along the pieces: a text is one piece, or a piece and a separator stand in front of a
text. -/
theorem pieces_induction (isSep : Char → Bool) {motive : List Char → Prop}
    (piece : ∀ a, (∀ c ∈ a, isSep c = false) → motive a)
    (append : ∀ a sep b, (∀ c ∈ a, isSep c = false) → isSep sep = true → motive b →
      motive (a ++ sep :: b)) (s : List Char) : motive s := by
  induction hn : s.length using Nat.strongRecOn generalizing s with
  | ind n ih =>
    rcases forall_or_exists_append_cons isSep s with hs | ⟨a, sep, b, rfl, ha, hsep⟩
    · exact piece s hs
    · exact append a sep b ha hsep (ih b.length (by simp at hn; omega) b rfl)

theorem eq_nil_of_getLast?_sep {a : List Char} (h : ∀ c ∈ a.getLast?, isSep c = true)
    (ha : ∀ c ∈ a, isSep c = false) : a = [] := by
  rw [← List.getLast?_eq_none_iff, Option.eq_none_iff_forall_not_mem]
  intro c hc
  exact absurd (h c hc) (by rw [ha c (List.mem_of_getLast? hc)]; decide)

theorem eq_nil_of_head?_sep {a : List Char} (h : ∀ c ∈ a.head?, isSep c = true)
    (ha : ∀ c ∈ a, isSep c = false) : a = [] := by
  rw [← List.head?_eq_none_iff, Option.eq_none_iff_forall_not_mem]
  intro c hc
  exact absurd (h c hc) (by rw [ha c (List.mem_of_head? hc)]; decide)

theorem isPiece_iff_eq {p s : List Char} (hs : ∀ c ∈ s, isSep c = false) :
    IsPiece isSep p s ↔ p = s := by
  constructor
  · rintro ⟨-, a, b, rfl, ha, hb⟩
    rw [List.forall_mem_append, List.forall_mem_append] at hs
    rw [eq_nil_of_getLast?_sep ha hs.1.1, eq_nil_of_head?_sep hb hs.2, List.nil_append,
      List.append_nil]
  · rintro rfl
    exact ⟨hs, [], [], by simp, nofun, nofun⟩

/-- A piece of a text is one of a longer text, if a separator comes in front. -/
theorem IsPiece.append_cons {p b : List Char} {sep : Char} (h : IsPiece isSep p b)
    (hsep : isSep sep = true) (a : List Char) : IsPiece isSep p (a ++ sep :: b) := by
  obtain ⟨hp, a', b', rfl, ha', hb'⟩ := h
  refine ⟨hp, a ++ sep :: a', b', by simp, fun c hc => ?_, hb'⟩
  rw [List.getLast?_append, List.getLast?_cons] at hc
  cases hlast : a'.getLast? with
  | none =>
    rw [hlast] at hc
    cases hc
    exact hsep
  | some d =>
    rw [hlast] at hc
    exact ha' c (hlast.trans hc)

/-- A piece is the first one, or it is a piece behind the first separator. -/
theorem IsPiece.eq_or_of_append_cons {p a b : List Char} {sep : Char}
    (h : IsPiece isSep p (a ++ sep :: b)) (ha : ∀ c ∈ a, isSep c = false)
    (hsep : isSep sep = true) : p = a ∨ IsPiece isSep p b := by
  have hnot {t : List Char} (ht : ∀ c ∈ t, isSep c = false) : sep ∉ t := fun hmem =>
    absurd hsep (by rw [ht sep hmem]; decide)
  obtain ⟨hp, a', b', heq, ha', hb'⟩ := h
  rw [List.append_assoc, List.append_eq_append_iff] at heq
  rcases heq with ⟨t, rfl, ht⟩ | ⟨t, rfl, ht⟩
  · -- what is in front of the piece goes at least to the separator
    cases t with
    | nil =>
      rw [List.append_nil] at ha'
      refine .inl ?_
      cases p with
      | nil => exact (eq_nil_of_getLast?_sep ha' ha).symm
      | cons d p =>
        obtain ⟨rfl, -⟩ := List.cons.inj ht
        exact absurd (List.mem_cons_self ..) (hnot hp)
    | cons d t =>
      obtain ⟨rfl, rfl⟩ := List.cons.inj ht
      refine .inr ⟨hp, t, b', (List.append_assoc ..).symm, fun c hc => ha' c ?_, hb'⟩
      rw [List.getLast?_append, List.getLast?_cons, hc]
      rfl
  · -- the piece begins the text, and goes to the separator
    rw [List.forall_mem_append] at ha
    obtain rfl := eq_nil_of_getLast?_sep ha' ha.1
    rw [List.nil_append]
    rcases List.append_eq_append_iff.mp ht with ⟨u, rfl, rfl⟩ | ⟨u, rfl, hu⟩
    · cases u with
      | nil => exact .inl (List.append_nil p).symm
      | cons d u =>
        have hd : isSep d = false := ha.2 d (by simp)
        exact absurd (hb' d rfl) (by rw [hd]; decide)
    · cases u with
      | nil => exact .inl (List.append_nil t)
      | cons d u =>
        obtain ⟨rfl, -⟩ := List.cons.inj hu
        exact absurd (by simp) (hnot hp)

/-- The first separator ends the first piece, and the others are those of the rest. -/
theorem isPiece_append_cons_iff {p a b : List Char} {sep : Char} (ha : ∀ c ∈ a, isSep c = false)
    (hsep : isSep sep = true) : IsPiece isSep p (a ++ sep :: b) ↔ p = a ∨ IsPiece isSep p b := by
  refine ⟨fun h => h.eq_or_of_append_cons ha hsep, ?_⟩
  rintro (rfl | h)
  · exact ⟨ha, [], sep :: b, by simp, nofun, by simpa using hsep⟩
  · exact h.append_cons hsep a

/-- **The pieces of a text.** -/
theorem mem_pieces_iff {p s : List Char} : p ∈ pieces isSep s ↔ IsPiece isSep p s := by
  induction s using pieces_induction isSep with
  | piece s hs => rw [pieces_of_forall hs, List.mem_singleton, isPiece_iff_eq hs]
  | append a sep b ha hsep ih =>
    rw [pieces_append_cons ha hsep, List.mem_cons, isPiece_append_cons_iff ha hsep, ih]

/-- **The words of a text.** -/
theorem mem_wordsBy_iff {w s : List Char} : w ∈ wordsBy isSep s ↔ IsWordOf isSep w s := by
  rw [wordsBy, List.mem_filter, mem_pieces_iff]
  simp only [Bool.not_eq_true', List.isEmpty_eq_false_iff]
  exact ⟨fun h => ⟨h.1, h.2⟩, fun h => ⟨h.toIsPiece, h.ne_nil⟩⟩

theorem wordsBy_cons_of_sep {c : Char} (hc : isSep c = true) (s : List Char) :
    wordsBy isSep (c :: s) = wordsBy isSep s := by
  rw [wordsBy, pieces_cons_of_sep hc, List.filter_cons_of_neg (by decide), wordsBy]

/-- **A separator cuts a text in two.** -/
theorem wordsBy_append_cons {sep : Char} (hsep : isSep sep = true) (a b : List Char) :
    wordsBy isSep (a ++ sep :: b) = wordsBy isSep a ++ wordsBy isSep b := by
  rw [wordsBy, wordsBy, wordsBy, pieces_append_sep hsep, List.filter_append]

theorem wordsBy_of_forall_sep {s : List Char} (hs : ∀ c ∈ s, isSep c = true) :
    wordsBy isSep s = [] := by
  induction s with
  | nil => rfl
  | cons c s ih =>
    rw [List.forall_mem_cons] at hs
    rw [wordsBy_cons_of_sep hs.1, ih hs.2]

/-- Separators at the end do not matter. -/
theorem wordsBy_append_of_forall_sep {t : List Char} (ht : ∀ c ∈ t, isSep c = true)
    (s : List Char) : wordsBy isSep (s ++ t) = wordsBy isSep s := by
  cases t with
  | nil => rw [List.append_nil]
  | cons c t =>
    rw [List.forall_mem_cons] at ht
    rw [wordsBy_append_cons ht.1, wordsBy_of_forall_sep ht.2, List.append_nil]

/-- The same first piece and the same words behind it. -/
def AgreesBy (isSep : Char → Bool) (a b : List Char) : Prop :=
  ∃ p ps qs, pieces isSep a = p :: ps ∧ pieces isSep b = p :: qs ∧
    (ps.filter fun p => !p.isEmpty) = qs.filter fun p => !p.isEmpty

namespace AgreesBy

variable {a b : List Char} {c : Char}

theorem wordsBy_eq (h : AgreesBy isSep a b) : wordsBy isSep a = wordsBy isSep b := by
  obtain ⟨p, ps, qs, ha, hb, hwords⟩ := h
  rw [wordsBy, wordsBy, ha, hb, List.filter_cons, List.filter_cons, hwords]

theorem cons (h : AgreesBy isSep a b) (c : Char) : AgreesBy isSep (c :: a) (c :: b) := by
  obtain ⟨p, ps, qs, ha, hb, hwords⟩ := h
  cases hc : isSep c with
  | true =>
    refine ⟨[], p :: ps, p :: qs, ?_, ?_, ?_⟩
    · rw [pieces_cons_of_sep hc, ha]
    · rw [pieces_cons_of_sep hc, hb]
    · rw [List.filter_cons, List.filter_cons, hwords]
  | false =>
    exact ⟨c :: p, ps, qs, pieces_cons_of_not_sep hc ha, pieces_cons_of_not_sep hc hb, hwords⟩

/-- A separator in front of a separator does not matter. -/
theorem cons_sep (h : AgreesBy isSep a (c :: b)) {sep : Char} (hsep : isSep sep = true)
    (hc : isSep c = true) : AgreesBy isSep a (sep :: c :: b) := by
  obtain ⟨p, ps, qs, ha, hb, hwords⟩ := h
  rw [pieces_cons_of_sep hc] at hb
  obtain ⟨rfl, rfl⟩ := List.cons.inj hb
  refine ⟨[], ps, [] :: pieces isSep b, ha, ?_, ?_⟩
  · rw [pieces_cons_of_sep hsep, pieces_cons_of_sep hc]
  · rw [hwords, List.filter_cons_of_neg (by decide)]

end AgreesBy

/-! ### Trimming -/

theorem trimStart_of_forall {s : List Char} (hs : ∀ c ∈ s, isBlank c = false) :
    trimStart s = s := by
  cases s with
  | nil => rfl
  | cons c s =>
    rw [trimStart, List.dropWhile_cons_of_neg]
    rw [hs c (List.mem_cons_self ..)]
    decide

/-- A text without blanks is not trimmed. -/
theorem trimChars_of_forall {s : List Char} (hs : ∀ c ∈ s, isBlank c = false) :
    trimChars s = s := by
  rw [trimChars, trimStart_of_forall hs, trimStart_of_forall, List.reverse_reverse]
  intro c hc
  exact hs c (List.mem_reverse.mp hc)

theorem trimStart_eq_nil_iff {s : List Char} : trimStart s = [] ↔ ∀ c ∈ s, isBlank c = true :=
  List.dropWhile_eq_nil_iff

/-- Something is left of a text that is not blank when its blanks are cut off at either end. -/
theorem trim_ne_empty {s : String} (hs : isBlankText s = false) : trim s ≠ "" := by
  intro htrim
  have hreverse : trimStart (trimStart s.toList).reverse = [] := by
    rw [trim, String.ofList_eq_empty_iff] at htrim
    exact List.reverse_eq_nil_iff.mp htrim
  have hblank : ∀ c ∈ trimStart s.toList, isBlank c = true := fun c hc =>
    trimStart_eq_nil_iff.mp hreverse c (List.mem_reverse.mpr hc)
  -- what is left at the start begins with no blank, so nothing is left there
  have hnil : trimStart s.toList = [] := by
    by_contra hne
    have hhead : isBlank ((trimStart s.toList).head hne) = false :=
      List.head_dropWhile_not isBlank hne
    rw [hblank _ (List.head_mem hne)] at hhead
    cases hhead
  rw [isBlankText, List.all_eq_true.mpr (trimStart_eq_nil_iff.mp hnil)] at hs
  cases hs

theorem wordsBy_trimStart (s : List Char) : wordsBy isBlank (trimStart s) = wordsBy isBlank s := by
  induction s with
  | nil => rfl
  | cons c s ih =>
    cases hc : isBlank c with
    | true => rw [trimStart, List.dropWhile_cons_of_pos hc, ← trimStart, ih, wordsBy_cons_of_sep hc]
    | false => rw [trimStart, List.dropWhile_cons_of_neg (by rw [hc]; decide)]

/-- **Trimming a text does not change its words.** -/
theorem wordsBy_trimChars (s : List Char) : wordsBy isBlank (trimChars s) = wordsBy isBlank s := by
  have hend : trimStart s =
      trimChars s ++ ((trimStart s).reverse.takeWhile isBlank).reverse := by
    rw [trimChars, trimStart.eq_def (trimStart s).reverse, ← List.reverse_append,
      List.takeWhile_append_dropWhile, List.reverse_reverse]
  have hblank : ∀ c ∈ ((trimStart s).reverse.takeWhile isBlank).reverse, isBlank c = true :=
    fun c hc => List.mem_takeWhile_imp (List.mem_reverse.mp hc)
  calc wordsBy isBlank (trimChars s)
    _ = wordsBy isBlank (trimStart s) := by rw [hend, wordsBy_append_of_forall_sep hblank]
    _ = wordsBy isBlank s := wordsBy_trimStart s

end Catalog
