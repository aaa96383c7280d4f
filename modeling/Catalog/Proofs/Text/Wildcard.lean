import Catalog.Proofs.Text.Regex.Matching
import Mathlib.Data.List.Count

/-!
# Texts that are like a pattern

A star in a pattern stands for any run of characters and a question mark for any one, while other
characters stand for themselves; a pattern without either is followed by anything. The expression of
a pattern asks for the same, except that neither its dots nor what follows take a line feed. So it
matches the texts that are like the pattern and have no more line feeds than the pattern itself.

## Main definitions

* `Fills`: a text that a pattern becomes once its wildcards are filled
* `IsLike`: a text that is like a pattern

## Main results

* `itemsAccept_wildcardItems_iff`: what the expression of a pattern matches
* `isLike_ne_lineFeed_iff`: what becomes of a pattern if no line feed fills a wildcard
-/

namespace Catalog

/-! ### Patterns -/

/-- The text is the pattern with allowed characters in place of its wildcards: any run of them for a
star, and one for a question mark. -/
inductive Fills (allowed : Char → Prop) : List Char → List Char → Prop
  | nil : Fills allowed [] []
  | star {r p t : List Char} (hr : ∀ c ∈ r, allowed c) (h : Fills allowed p t) :
      Fills allowed ('*' :: p) (r ++ t)
  | mark {c : Char} {p t : List Char} (hc : allowed c) (h : Fills allowed p t) :
      Fills allowed ('?' :: p) (c :: t)
  | char {c : Char} {p t : List Char} (hstar : c ≠ '*') (hmark : c ≠ '?')
      (h : Fills allowed p t) : Fills allowed (c :: p) (c :: t)

/-- The text is like the pattern: its wildcards are filled, or it has none and the text begins with
it. What fills wildcards or follows are allowed characters. -/
def IsLike (allowed : Char → Prop) (p t : List Char) : Prop :=
  if '*' ∈ p ∨ '?' ∈ p then Fills allowed p t else ∃ r, t = p ++ r ∧ ∀ c ∈ r, allowed c

section

variable {allowed : Char → Prop} {p t : List Char}

theorem fills_nil_iff : Fills allowed [] t ↔ t = [] := by
  constructor
  · rintro ⟨⟩
    rfl
  · rintro rfl
    exact .nil

theorem fills_star_iff : Fills allowed ('*' :: p) t ↔
    ∃ r u, t = r ++ u ∧ (∀ c ∈ r, allowed c) ∧ Fills allowed p u := by
  constructor
  · rintro (_ | ⟨hr, h⟩ | _ | ⟨hstar, -, -⟩)
    · exact ⟨_, _, rfl, hr, h⟩
    · exact absurd rfl hstar
  · rintro ⟨r, u, rfl, hr, h⟩
    exact .star hr h

theorem fills_mark_iff : Fills allowed ('?' :: p) t ↔
    ∃ c u, t = c :: u ∧ allowed c ∧ Fills allowed p u := by
  constructor
  · rintro (_ | _ | ⟨hc, h⟩ | ⟨-, hmark, -⟩)
    · exact ⟨_, _, rfl, hc, h⟩
    · exact absurd rfl hmark
  · rintro ⟨c, u, rfl, hc, h⟩
    exact .mark hc h

theorem fills_char_iff {c : Char} (hstar : c ≠ '*') (hmark : c ≠ '?') :
    Fills allowed (c :: p) t ↔ ∃ u, t = c :: u ∧ Fills allowed p u := by
  constructor
  · rintro (_ | _ | _ | ⟨-, -, h⟩)
    · exact absurd rfl hstar
    · exact absurd rfl hmark
    · exact ⟨_, rfl, h⟩
  · rintro ⟨u, rfl, h⟩
    exact .char hstar hmark h

end

/-! ### Expressions -/

section

variable {a : RegexAtom} {items : List RegexItem} {p t : List Char}

theorem itemsAccept_once_iff : itemsAccept (⟨a, false⟩ :: items) t = true ↔
    ∃ c u, t = c :: u ∧ a.accepts c = true ∧ itemsAccept items u = true := by
  cases t with
  | nil => simp [itemsAccept_once_nil]
  | cons c t =>
    rw [itemsAccept_once, Bool.and_eq_true]
    constructor
    · rintro ⟨hc, h⟩
      exact ⟨c, t, rfl, hc, h⟩
    · rintro ⟨d, u, heq, hd, h⟩
      obtain ⟨rfl, rfl⟩ := List.cons.inj heq
      exact ⟨hd, h⟩

/-- An item that is repeated takes a run of characters. -/
theorem itemsAccept_star_iff : itemsAccept (⟨a, true⟩ :: items) t = true ↔
    ∃ r u, t = r ++ u ∧ (∀ c ∈ r, a.accepts c = true) ∧ itemsAccept items u = true := by
  induction t with
  | nil =>
    have hnil : itemsAccept (⟨a, true⟩ :: items) [] = itemsAccept items [] := by
      rw [itemsAccept, matchedEnds]
      rfl
    rw [hnil]
    constructor
    · intro h
      exact ⟨[], [], rfl, List.forall_mem_nil _, h⟩
    · rintro ⟨r, u, heq, -, h⟩
      obtain ⟨-, rfl⟩ := List.append_eq_nil_iff.mp heq.symm
      exact h
  | cons c t ih =>
    rw [itemsAccept_star, Bool.or_eq_true, Bool.and_eq_true, ih]
    constructor
    · rintro (h | ⟨hc, r, u, rfl, hr, h⟩)
      · exact ⟨[], c :: t, rfl, List.forall_mem_nil _, h⟩
      · exact ⟨c :: r, u, rfl, List.forall_mem_cons.mpr ⟨hc, hr⟩, h⟩
    · rintro ⟨r, u, heq, hr, h⟩
      cases r with
      | nil =>
        obtain rfl : c :: t = u := heq
        exact .inl h
      | cons d r =>
        obtain ⟨rfl, rfl⟩ := List.cons.inj heq
        obtain ⟨hc, hr⟩ := List.forall_mem_cons.mp hr
        exact .inr ⟨hc, r, u, rfl, hr, h⟩

theorem RegexAtom.accepts_dot_iff {c : Char} : dot.accepts c = true ↔ c ≠ '\n' :=
  bne_iff_ne

/-- The items of a pattern match the texts that fill it without line feeds. -/
theorem itemsAccept_map_wildcardItem_iff :
    itemsAccept (p.map wildcardItem) t = true ↔ Fills (· ≠ '\n') p t := by
  induction p generalizing t with
  | nil => rw [List.map_nil, itemsAccept_nil, List.isEmpty_iff, fills_nil_iff]
  | cons c p ih =>
    rw [List.map_cons, wildcardItem]
    split
    · next hstar =>
      subst hstar
      simp only [itemsAccept_star_iff, RegexAtom.accepts_dot_iff, ih, fills_star_iff]
    · next hstar =>
      split
      · next hmark =>
        subst hmark
        simp only [itemsAccept_once_iff, RegexAtom.accepts_dot_iff, ih, fills_mark_iff]
      · next hmark =>
        simp only [itemsAccept_once_iff, RegexAtom.accepts, beq_iff_eq, ih,
          fills_char_iff hstar hmark]
        simp

/-- **The expression of a pattern matches what is like the pattern** if no line feed may fill a
wildcard or follow. -/
theorem itemsAccept_wildcardItems_iff :
    itemsAccept (wildcardItems p) t = true ↔ IsLike (· ≠ '\n') p t := by
  unfold IsLike
  split
  · next h =>
    have hcontains : (p.contains '*' || p.contains '?') = true := by simpa using h
    rw [wildcardItems, if_pos hcontains, List.append_nil, itemsAccept_map_wildcardItem_iff]
  · next h =>
    obtain ⟨hstar, hmark⟩ := not_or.mp h
    rw [wildcardItems_of_not_mem hstar hmark, itemsAccept_beginning_iff]

end

/-! ### Line feeds -/

section

variable {p t : List Char}

theorem Fills.count_le (h : Fills (fun _ => True) p t) : p.count '\n' ≤ t.count '\n' := by
  induction h with
  | nil => exact Nat.le_refl _
  | star hr h ih =>
    rw [List.count_cons_of_ne (by decide), List.count_append]
    omega
  | mark hc h ih =>
    rw [List.count_cons_of_ne (by decide), List.count_cons]
    omega
  | char hstar hmark h ih =>
    rw [List.count_cons, List.count_cons]
    omega

/-- No line feed fills a wildcard just if the text has no more of them than the pattern. -/
theorem fills_ne_lineFeed_iff : Fills (· ≠ '\n') p t ↔
    Fills (fun _ => True) p t ∧ t.count '\n' = p.count '\n' := by
  constructor
  · intro h
    induction h with
    | nil => exact ⟨.nil, rfl⟩
    | star hr h ih =>
      have hzero := List.count_eq_zero.mpr fun hmem => hr _ hmem rfl
      rw [List.count_cons_of_ne (by decide), List.count_append, hzero, Nat.zero_add]
      exact ⟨.star (fun _ _ => trivial) ih.1, ih.2⟩
    | mark hc h ih =>
      rw [List.count_cons_of_ne hc, List.count_cons_of_ne (by decide)]
      exact ⟨.mark trivial ih.1, ih.2⟩
    | char hstar hmark h ih =>
      rw [List.count_cons, List.count_cons, ih.2]
      exact ⟨.char hstar hmark ih.1, rfl⟩
  · rintro ⟨h, hcount⟩
    induction h with
    | nil => exact .nil
    | star hr h ih =>
      have hle := h.count_le
      rw [List.count_cons_of_ne (by decide), List.count_append] at hcount
      refine .star (fun c hc heq => ?_) (ih (by omega))
      have hpos := List.count_pos_iff.mpr (heq ▸ hc)
      omega
    | mark hc h ih =>
      have hle := h.count_le
      rw [List.count_cons, List.count_cons_of_ne (show '?' ≠ '\n' by decide)] at hcount
      refine .mark (fun heq => ?_) (ih (by omega))
      rw [if_pos (beq_iff_eq.mpr heq)] at hcount
      omega
    | char hstar hmark h ih =>
      rw [List.count_cons, List.count_cons] at hcount
      exact .char hstar hmark (ih (Nat.add_right_cancel hcount))

/-- **No line feed fills a wildcard or follows** just if the text has no more of them than the
pattern. -/
theorem isLike_ne_lineFeed_iff : IsLike (· ≠ '\n') p t ↔
    IsLike (fun _ => True) p t ∧ t.count '\n' = p.count '\n' := by
  unfold IsLike
  split
  · exact fills_ne_lineFeed_iff
  · constructor
    · rintro ⟨r, rfl, hr⟩
      have hzero := List.count_eq_zero.mpr fun hmem => hr _ hmem rfl
      exact ⟨⟨r, rfl, fun _ _ => trivial⟩, by rw [List.count_append, hzero, Nat.add_zero]⟩
    · rintro ⟨⟨r, rfl, -⟩, hcount⟩
      rw [List.count_append, Nat.add_eq_left] at hcount
      exact ⟨r, rfl, fun c hc heq => List.count_eq_zero.mp hcount (heq ▸ hc)⟩

end

end Catalog
