import Catalog.Proofs.Text.Wildcard
import Mathlib.Data.List.Forall2

/-!
# Texts piece by piece

An expression matches a text if the text can be cut into pieces, one for each item, so that each
item takes its piece: an item that is repeated takes a run of characters, any other one character.
The items of the expression of a pattern are those of its characters, one by one, so the pieces of a
text are pieces of the pattern as well; what is left is for the open end of a pattern without
wildcards.

## Main definitions

* `RegexItem.Takes`, `Regex.Matches`: the texts of an expression, without its reader
* `TakesPiece`, `FallsApart`: a text cut along the characters of a pattern

## Main results

* `Regex.accepts_iff_matches`: the ends of a text that are kept track of tell what matches
* `wildcardRegex_accepts_iff_fallsApart`: the expression of a pattern matches what falls apart along
  the pattern
-/

namespace Catalog

variable {items items' : List RegexItem} {t : List Char}

/-! ### Expressions -/

/-- What an item takes: a run of characters if it is repeated, and else one character. -/
def RegexItem.Takes (i : RegexItem) (piece : List Char) : Prop :=
  (∀ c ∈ piece, i.atom.accepts c = true) ∧ (i.starred = false → piece.length = 1)

/-- The text can be cut into pieces of which each is taken by an item. -/
def Regex.Matches (x : Regex) (t : List Char) : Prop :=
  ∃ pieces, List.Forall₂ RegexItem.Takes x.items pieces ∧ pieces.flatten = t

theorem itemsAccept_iff_matches : itemsAccept items t = true ↔ Regex.Matches ⟨items⟩ t := by
  unfold Regex.Matches
  induction items generalizing t with
  | nil =>
    rw [itemsAccept_nil, List.isEmpty_iff]
    simp only [List.forall₂_nil_left_iff, exists_eq_left, List.flatten_nil, eq_comm]
  | cons i items ih =>
    obtain ⟨a, starred⟩ := i
    have hstep : (∃ pieces, List.Forall₂ RegexItem.Takes (⟨a, starred⟩ :: items) pieces ∧
        pieces.flatten = t) ↔
          ∃ r u, t = r ++ u ∧ RegexItem.Takes ⟨a, starred⟩ r ∧ itemsAccept items u = true := by
      simp only [List.forall₂_cons_left_iff, ih]
      constructor
      · rintro ⟨_, ⟨r, pieces, hr, hpieces, rfl⟩, rfl⟩
        exact ⟨r, pieces.flatten, rfl, hr, pieces, hpieces, rfl⟩
      · rintro ⟨r, _, rfl, hr, pieces, hpieces, rfl⟩
        exact ⟨r :: pieces, ⟨r, pieces, hr, hpieces, rfl⟩, rfl⟩
    rw [hstep]
    cases starred with
    | true => simp only [itemsAccept_star_iff, RegexItem.Takes, reduceCtorEq, false_imp_iff, and_true]
    | false =>
      simp only [itemsAccept_once_iff, RegexItem.Takes, true_imp_iff, List.length_eq_one_iff]
      constructor
      · rintro ⟨c, u, rfl, hc, hu⟩
        exact ⟨[c], u, rfl, ⟨List.forall_mem_singleton.mpr hc, c, rfl⟩, hu⟩
      · rintro ⟨_, u, rfl, ⟨hc, c, rfl⟩, hu⟩
        exact ⟨c, u, rfl, hc c (List.mem_singleton_self c), hu⟩

/-- **The ends of a text that are kept track of tell what matches.** -/
theorem Regex.accepts_iff_matches {x : Regex} : x.accepts t = true ↔ x.Matches t :=
  itemsAccept_iff_matches

/-- Items one after the other match texts one after the other. -/
theorem Regex.matches_append_iff : Regex.Matches ⟨items ++ items'⟩ t ↔
    ∃ u v, t = u ++ v ∧ Regex.Matches ⟨items⟩ u ∧ Regex.Matches ⟨items'⟩ v := by
  constructor
  · rintro ⟨pieces, hpieces, rfl⟩
    refine ⟨(pieces.take items.length).flatten, (pieces.drop items.length).flatten, ?_,
      ⟨_, ?_, rfl⟩, ⟨_, ?_, rfl⟩⟩
    · rw [← List.flatten_append, List.take_append_drop]
    · simpa using List.forall₂_take items.length hpieces
    · simpa using List.forall₂_drop items.length hpieces
  · rintro ⟨_, _, rfl, ⟨pieces, hpieces, rfl⟩, ⟨pieces', hpieces', rfl⟩⟩
    exact ⟨pieces ++ pieces', List.rel_append hpieces hpieces', List.flatten_append⟩

/-! ### Patterns -/

/-- What a character of a pattern takes: a star any run without a line feed, a question mark any
other character than a line feed, and any other character itself. -/
def TakesPiece (c : Char) (piece : List Char) : Prop :=
  if c = '*' then '\n' ∉ piece else if c = '?' then ∃ d, d ≠ '\n' ∧ piece = [d] else piece = [c]

/-- The text can be cut into pieces of which each is taken by a character of the pattern, and
something without a line feed behind them if the pattern has no wildcards. -/
def FallsApart (p t : List Char) : Prop :=
  ∃ pieces rest, t = pieces.flatten ++ rest ∧ List.Forall₂ TakesPiece p pieces ∧
    if '*' ∈ p ∨ '?' ∈ p then rest = [] else '\n' ∉ rest

/-- The item of a character of a pattern takes what the character takes. -/
theorem takes_wildcardItem_iff (c : Char) (piece : List Char) :
    (wildcardItem c).Takes piece ↔ TakesPiece c piece := by
  have hdots : (∀ d ∈ piece, RegexAtom.dot.accepts d = true) ↔ '\n' ∉ piece := by
    simp only [RegexAtom.accepts_dot_iff, ne_eq, List.forall_mem_ne']
  rw [wildcardItem, TakesPiece]
  split
  · simp only [RegexItem.Takes, hdots, reduceCtorEq, false_imp_iff, and_true]
  · split
    · simp only [RegexItem.Takes, true_imp_iff, List.length_eq_one_iff]
      constructor
      · rintro ⟨hd, d, rfl⟩
        exact ⟨d, RegexAtom.accepts_dot_iff.mp (hd d (List.mem_singleton_self d)), rfl⟩
      · rintro ⟨d, hd, rfl⟩
        exact ⟨List.forall_mem_singleton.mpr (RegexAtom.accepts_dot_iff.mpr hd), d, rfl⟩
    · simp only [RegexItem.Takes, true_imp_iff, List.length_eq_one_iff, RegexAtom.accepts, beq_iff_eq]
      constructor
      · rintro ⟨hd, d, rfl⟩
        rw [hd d (List.mem_singleton_self d)]
      · rintro rfl
        exact ⟨List.forall_mem_singleton.mpr rfl, c, rfl⟩

/-- The open end of the expression of a pattern without wildcards. -/
theorem matches_openEnd_iff (p : List Char) :
    Regex.Matches ⟨if p.contains '*' || p.contains '?' then [] else [⟨.dot, true⟩]⟩ t ↔
      if '*' ∈ p ∨ '?' ∈ p then t = [] else '\n' ∉ t := by
  rw [← itemsAccept_iff_matches]
  simp only [List.contains_eq_mem, Bool.or_eq_true, decide_eq_true_eq]
  split
  · rw [itemsAccept_nil, List.isEmpty_iff]
  · rw [itemsAccept_dots, List.all_eq_true]
    simp only [bne_iff_ne, ne_eq, List.forall_mem_ne']

/-- **The expression of a pattern matches what falls apart along the pattern.** Its text is read as
an expression whatever the characters of the pattern are, and a text matches just if it can be cut
into pieces, one for each character of the pattern. -/
theorem wildcardRegex_accepts_iff_fallsApart (p : String) :
    ∃ x, Regex.read? (wildcardRegex p) = some x ∧
      ∀ t : String, x.accepts t.toList = true ↔ FallsApart p.toList t.toList := by
  refine ⟨_, read?_wildcardRegex p, fun t => ?_⟩
  have hpieces (u : List Char) : Regex.Matches ⟨p.toList.map wildcardItem⟩ u ↔
      ∃ pieces, List.Forall₂ TakesPiece p.toList pieces ∧ pieces.flatten = u := by
    simp only [Regex.Matches, List.forall₂_map_left_iff, takes_wildcardItem_iff]
  rw [Regex.accepts_iff_matches, wildcardItems, Regex.matches_append_iff]
  simp only [hpieces, matches_openEnd_iff]
  constructor
  · rintro ⟨_, rest, ht, ⟨pieces, hpieces, rfl⟩, hrest⟩
    exact ⟨pieces, rest, ht, hpieces, hrest⟩
  · rintro ⟨pieces, rest, ht, hpieces, hrest⟩
    exact ⟨_, rest, ht, ⟨pieces, hpieces, rfl⟩, hrest⟩

end Catalog
