import Catalog.Query.Wildcard
import Mathlib.Data.List.Basic

/-!
# What the expression of a literal matches

Whether items match a text can be said without the list of ends: the first item takes a character,
or is repeated, and the others match the rest. A text without wildcards becomes an expression of its
characters and a repeated dot, so it matches what begins with it.

## Main definitions

* `itemsAccept`: whether items match a text
* `wildcardItems`: the items of the expression of a text with wildcards
* `beginningItems`: those of a text without wildcards

## Main results

* `read?_wildcardRegex`: how the expression of a text is read
* `itemsAccept_beginning_iff`: what it matches if there is no wildcard
-/

namespace Catalog

/-! ### Ends -/

/-- Whether items match a text. -/
def itemsAccept (items : List RegexItem) (s : List Char) : Bool :=
  (matchedEnds items s).headD false

theorem accepts_eq (x : Regex) (s : List Char) : x.accepts s = itemsAccept x.items s := rfl

/-- The ends of a text are those of its rest and one more. -/
theorem matchedEnds_cons (items : List RegexItem) (c : Char) (s : List Char) :
    matchedEnds items (c :: s) = itemsAccept items (c :: s) :: matchedEnds items s := by
  induction items with
  | nil => rfl
  | cons i items ih =>
    unfold itemsAccept
    rw [matchedEnds, matchedEnds, ih]
    split <;> rfl

theorem itemsAccept_nil (s : List Char) : itemsAccept [] s = s.isEmpty := by
  cases s <;> rfl

/-- An item that is not repeated takes one character. -/
theorem itemsAccept_once (a : RegexAtom) (items : List RegexItem) (c : Char) (s : List Char) :
    itemsAccept (⟨a, false⟩ :: items) (c :: s) = (a.accepts c && itemsAccept items s) := by
  rw [itemsAccept, matchedEnds, matchedEnds_cons]
  rfl

theorem itemsAccept_once_nil (a : RegexAtom) (items : List RegexItem) :
    itemsAccept (⟨a, false⟩ :: items) [] = false := by
  rw [itemsAccept, matchedEnds]
  rfl

/-- An item that is repeated takes no character, or one and is repeated. -/
theorem itemsAccept_star (a : RegexAtom) (items : List RegexItem) (c : Char) (s : List Char) :
    itemsAccept (⟨a, true⟩ :: items) (c :: s) =
      (itemsAccept items (c :: s) || a.accepts c && itemsAccept (⟨a, true⟩ :: items) s) := by
  rw [itemsAccept, matchedEnds, matchedEnds_cons]
  rfl

/-! ### Beginnings -/

/-- The items of the expression of a text without wildcards: its characters and any others. -/
def beginningItems (s : List Char) : List RegexItem :=
  s.map (fun c => ⟨.char c, false⟩) ++ [⟨.dot, true⟩]

theorem itemsAccept_dots (s : List Char) :
    itemsAccept [⟨.dot, true⟩] s = s.all fun c => c != '\n' := by
  induction s with
  | nil => rfl
  | cons c s ih =>
    rw [itemsAccept_star, itemsAccept_nil, ih]
    rfl

/-- **The expression of a text without wildcards matches what begins with the text** and goes on
without a line feed. -/
theorem itemsAccept_beginning_iff {s t : List Char} :
    itemsAccept (beginningItems s) t = true ↔ ∃ r, t = s ++ r ∧ ∀ c ∈ r, c ≠ '\n' := by
  induction s generalizing t with
  | nil =>
    rw [beginningItems, List.map_nil, List.nil_append, itemsAccept_dots, List.all_eq_true]
    simp
  | cons c s ih =>
    rw [beginningItems, List.map_cons, List.cons_append, ← beginningItems]
    cases t with
    | nil => simp [itemsAccept_once_nil]
    | cons d t =>
      rw [itemsAccept_once, Bool.and_eq_true, ih, RegexAtom.accepts, beq_iff_eq]
      constructor
      · rintro ⟨rfl, r, rfl, hr⟩
        exact ⟨r, rfl, hr⟩
      · rintro ⟨r, heq, hr⟩
        obtain ⟨rfl, rfl⟩ := List.cons.inj heq
        exact ⟨rfl, r, rfl, hr⟩

/-! ### Reading -/

/-- The item of a character of a text with wildcards. -/
def wildcardItem (c : Char) : RegexItem :=
  if c = '*' then ⟨.dot, true⟩ else if c = '?' then ⟨.dot, false⟩ else ⟨.char c, false⟩

/-- The items of the expression of a text with wildcards: one for each character, and any others
behind them if there is no wildcard. -/
def wildcardItems (s : List Char) : List RegexItem :=
  s.map wildcardItem ++ if s.contains '*' || s.contains '?' then [] else [⟨.dot, true⟩]

theorem wildcardItems_of_not_mem {s : List Char} (hstar : '*' ∉ s) (hmark : '?' ∉ s) :
    wildcardItems s = beginningItems s := by
  have hitems : s.map wildcardItem = s.map fun c => ⟨.char c, false⟩ := by
    refine List.map_congr_left fun c hc => ?_
    rw [wildcardItem, if_neg (ne_of_mem_of_not_mem hc hstar),
      if_neg (ne_of_mem_of_not_mem hc hmark)]
  rw [wildcardItems, beginningItems, hitems, List.contains_eq_mem, List.contains_eq_mem,
    decide_eq_false hstar, decide_eq_false hmark]
  rfl

/-- What begins with no star leaves what comes in front of it alone. -/
theorem takeStar_of_head? {t : List Char} (h : t.head? ≠ some '*') : takeStar t = (false, t) := by
  unfold takeStar
  split
  · exact absurd rfl h
  · rfl

/-- The part of an expression for a character begins with no star. -/
theorem exists_wildcardPart (c : Char) : ∃ d r, wildcardPart c = d :: r ∧ d ≠ '*' := by
  unfold wildcardPart escapeRegexChar
  split
  · exact ⟨_, _, rfl, by decide⟩
  · next hstar =>
    split
    · exact ⟨_, _, rfl, by decide⟩
    · split
      · exact ⟨_, _, rfl, by decide⟩
      · exact ⟨c, [], rfl, by simpa using hstar⟩

/-- **A character of a text with wildcards is read as its item.** -/
theorem readRegexItems_wildcardPart (c : Char) {t : List Char} (ht : t.head? ≠ some '*') (n : Nat) :
    readRegexItems (n + 1) (wildcardPart c ++ t) =
      (readRegexItems n t).map (wildcardItem c :: ·) := by
  by_cases hstar : c = '*'
  · rw [hstar]
    simp [wildcardPart, wildcardItem, readRegexItems, takeStar]
  · by_cases hmark : c = '?'
    · rw [hmark]
      simp [wildcardPart, wildcardItem, readRegexItems, takeStar_of_head? ht]
    · rw [wildcardItem, if_neg hstar, if_neg hmark, wildcardPart, if_neg (by simpa using hstar),
        if_neg (by simpa using hmark), escapeRegexChar]
      by_cases hspecial : regexSpecials.contains c = true
      · rw [if_pos hspecial, List.cons_append, List.singleton_append, readRegexItems,
          if_pos hspecial, takeStar_of_head? ht]
      · have hdot : c ≠ '.' := by
          rintro rfl
          exact hspecial (by decide)
        rw [if_neg hspecial, List.singleton_append, readRegexItems, takeStar_of_head? ht]
        · have hplain : c ∉ regexSpecials := by simpa using hspecial
          simp [hplain, hdot]
        · rintro d r rfl
          exact absurd (by decide) hspecial

theorem head?_flatMap_wildcardPart (s : List Char) {t : List Char} (ht : t.head? ≠ some '*') :
    (s.flatMap wildcardPart ++ t).head? ≠ some '*' := by
  cases s with
  | nil => exact ht
  | cons c s =>
    obtain ⟨d, r, hpart, hd⟩ := exists_wildcardPart c
    rw [List.flatMap_cons, hpart]
    simpa using hd

/-- The characters of a text with wildcards are read one by one. -/
theorem readRegexItems_flatMap (s : List Char) {t : List Char} (ht : t.head? ≠ some '*') (n : Nat) :
    readRegexItems (n + s.length) (s.flatMap wildcardPart ++ t) =
      (readRegexItems n t).map (s.map wildcardItem ++ ·) := by
  induction s with
  | nil => simp
  | cons c s ih =>
    rw [List.flatMap_cons, List.append_assoc, List.length_cons, ← Nat.add_assoc,
      readRegexItems_wildcardPart c (head?_flatMap_wildcardPart s ht), ih, Option.map_map]
    rfl

theorem length_le_flatMap_wildcardPart (s : List Char) :
    s.length ≤ (s.flatMap wildcardPart).length := by
  induction s with
  | nil => exact Nat.zero_le _
  | cons c s ih =>
    obtain ⟨d, r, hpart, -⟩ := exists_wildcardPart c
    rw [List.flatMap_cons, hpart, List.length_append, List.length_cons, List.length_cons]
    omega

/-- **How the expression of a text with wildcards is read.** -/
theorem read?_wildcardRegex (s : String) :
    Regex.read? (wildcardRegex s) = some ⟨wildcardItems s.toList⟩ := by
  have hlength := length_le_flatMap_wildcardPart s.toList
  rw [Regex.read?, wildcardRegex, String.toList_ofList, wildcardItems, wildcardChars]
  split
  · obtain ⟨n, hn⟩ := Nat.exists_eq_add_of_le' hlength
    rw [List.length_append, List.length_nil, Nat.add_zero, hn, readRegexItems_flatMap _ (by decide)]
    cases n <;> rfl
  · obtain ⟨n, hn⟩ := Nat.exists_eq_add_of_le' hlength
    have hfuel : (s.toList.flatMap wildcardPart ++ ['.', '*']).length =
        (n + 2) + s.toList.length := by
      rw [List.length_append, hn, List.length_cons, List.length_singleton]
      omega
    rw [hfuel, readRegexItems_flatMap _ (by decide)]
    rfl

end Catalog
