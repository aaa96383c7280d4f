import Catalog.Proofs.Text.Blank
import Catalog.Query.Expression.Reader
import Catalog.Query.Wildcard

/-!
# Reading an escaped text

Most characters that mean something in an expression have a backslash in front of them in an escaped
text, so that no field is named there, nothing is put in parentheses, brackets or double quotes, and
nothing is signed, boosted or starred. What is left to a reader are words, texts in single quotes,
comparisons, and the words `AND`, `OR`, `NOT` and `IN`.

## Main definitions

* `Expression.escaped`: the characters of an escaped text
* `Expression.isWordChar`: the characters that an escaped word may have
* `Expression.Opens`: words and texts in quotes at the front of a text
* `Expression.beginsComparison`: texts that begin with a comparison

## Main results

* `Expression.takeFieldName_escaped`, `Expression.takeSet_escaped` and so on: what no reader finds
* `Expression.exists_opens_of_takeText`, `Expression.Opens.exists_takeText`: the words and texts
* `Expression.agreesBy_unescapeWord_escaped`: the backslashes that are left do not matter
* `Expression.isSome_takeComparison_escaped`: comparisons
-/

namespace Catalog.Expression

/-- A character of an escaped text, with its backslash. -/
def escapeChar (c : Char) : List Char :=
  if expressionSpecials.contains c then ['\\', c] else [c]

/-- The characters of an escaped text. -/
def escaped (s : List Char) : List Char :=
  s.flatMap escapeChar

/-- Whether a character that may have a backslash in an escaped text stands in a word there. -/
def isWordChar (c : Char) : Bool :=
  !(isBlank c || c == '\x60' || c == '\'')

/-- A word or a text in single quotes at the front of a text, and what follows it. -/
inductive Opens : List Char → List Char → List Char → Prop
  | quoted {w : List Char} (hw : '\'' ∉ w) (r : List Char) : Opens ('\'' :: (w ++ '\'' :: r)) w r
  | word {w r : List Char} (hne : w ≠ []) (hw : ∀ c ∈ w, isWordChar c = true)
    (hr : ∀ c ∈ r.head?, isWordChar c = false)
    (hreserved : reservedWords.contains (String.ofList w) = false) : Opens (w ++ r) w r

/-- What is read is a text itself, or the text with backslashes that stand for themselves. -/
def Spells (x : String) (w : List Char) : Prop :=
  x = String.ofList w ∨ x = String.ofList (unescapeWord (escaped w))

/-- The text behind a sign of comparison. -/
def behindSign (s : List Char) : Option (List Char) :=
  comparisons.findSome? fun c => takeTag c.1 s

/-- Whether a character may be the first one of a boundary in an escaped text. -/
def beginsBoundary (c : Char) : Bool :=
  !(isBlank c || c == '\x60')

/-- Whether a text begins with a sign of comparison and a boundary behind it. -/
def beginsComparison (s : List Char) : Bool :=
  (behindSign s).any fun r => (skipGap r).head?.any beginsBoundary

theorem toList_escapeExpression (s : String) : (escapeExpression s).toList = escaped s.toList := by
  rw [escapeExpression, String.toList_ofList]
  rfl

/-! ### Characters -/

section Characters

variable {c : Char} {s : List Char}

theorem escaped_cons (c : Char) (s : List Char) : escaped (c :: s) = escapeChar c ++ escaped s :=
  List.flatMap_cons

theorem escaped_cons_special (h : expressionSpecials.contains c = true) (s : List Char) :
    escaped (c :: s) = '\\' :: c :: escaped s := by
  rw [escaped_cons, escapeChar, if_pos h]
  rfl

theorem escaped_cons_of_not_special (h : expressionSpecials.contains c = false) (s : List Char) :
    escaped (c :: s) = c :: escaped s := by
  rw [escaped_cons, escapeChar, h]
  rfl

theorem escaped_eq_nil_iff : escaped s = [] ↔ s = [] := by
  cases s with
  | nil => simp [escaped]
  | cons c s =>
    rw [escaped_cons, escapeChar]
    split <;> simp

/-- Characters that have a backslash are no blanks. -/
theorem isBlank_of_special (h : expressionSpecials.contains c = true) : isBlank c = false := by
  have hall : ∀ c ∈ expressionSpecials, isBlank c = false := by decide
  exact hall c (List.contains_iff_mem.mp h)

theorem isBlank_of_isGap (h : isGap c = true) : isBlank c = true := by
  simp only [isGap, Bool.or_eq_true, beq_iff_eq] at h
  rcases h with ((rfl | rfl) | rfl) | rfl <;> decide

theorem isGap_of_special (h : expressionSpecials.contains c = true) : isGap c = false := by
  rw [Bool.eq_false_iff]
  intro hgap
  exact absurd (isBlank_of_isGap hgap) (by rw [isBlank_of_special h]; decide)

theorem isWordChar_of_special (h : expressionSpecials.contains c = true) : isWordChar c = true := by
  have hall : ∀ c ∈ expressionSpecials, isWordChar c = true := by decide
  exact hall c (List.contains_iff_mem.mp h)

/-- A character without a backslash ends a word just if it is none that stands in one. -/
theorem endsWord_eq (h : expressionSpecials.contains c = false) :
    (isBlank c || wordSpecials.contains c) = !isWordChar c := by
  have hall : ∀ d ∈ wordSpecials, expressionSpecials.contains d = true ∨ d = '\x60' ∨ d = '\'' := by
    decide
  rw [isWordChar, Bool.not_not, Bool.or_assoc]
  congr 1
  rw [Bool.eq_iff_iff, List.contains_iff_mem, Bool.or_eq_true, beq_iff_eq, beq_iff_eq]
  constructor
  · intro hmem
    refine (hall c hmem).resolve_left ?_
    rw [h]
    decide
  · rintro (rfl | rfl) <;> decide

/-- An escaped text has its backslashes at the front of what it was before. -/
theorem escaped_eq_append_iff {l r : List Char}
    (hl : ∀ c ∈ l, expressionSpecials.contains c = false) :
    escaped s = l ++ r ↔ ∃ t, s = l ++ t ∧ r = escaped t := by
  induction l generalizing s with
  | nil => exact ⟨fun h => ⟨s, rfl, h.symm⟩, fun ⟨t, hs, hr⟩ => by rw [hs, hr]; rfl⟩
  | cons d l ih =>
    rw [List.forall_mem_cons] at hl
    cases s with
    | nil => exact iff_of_false (by simp [escaped]) (by simp)
    | cons c s =>
      cases hc : expressionSpecials.contains c with
      | true =>
        rw [escaped_cons_special hc]
        refine iff_of_false (fun h => ?_) fun ⟨t, h, _⟩ => ?_
        · obtain rfl := (List.cons.inj h).1
          exact absurd hl.1 (by decide)
        · obtain rfl := (List.cons.inj h).1
          rw [hl.1] at hc
          cases hc
      | false =>
        rw [escaped_cons_of_not_special hc, List.cons_append, List.cons.injEq, ih hl.2]
        constructor
        · rintro ⟨rfl, t, rfl, rfl⟩
          exact ⟨t, rfl, rfl⟩
        · rintro ⟨t, h, rfl⟩
          obtain ⟨rfl, rfl⟩ := List.cons.inj h
          exact ⟨rfl, t, rfl, rfl⟩

end Characters

/-! ### Gaps and tags -/

section Tags

variable {s : List Char}

theorem skipGap_escaped (s : List Char) : skipGap (escaped s) = escaped (skipGap s) := by
  induction s with
  | nil => rfl
  | cons c s ih =>
    cases hc : expressionSpecials.contains c with
    | true =>
      have hgap : isGap c = false := isGap_of_special hc
      rw [escaped_cons_special hc, skipGap, skipGap, List.dropWhile_cons_of_neg (by decide),
        List.dropWhile_cons_of_neg (by rw [hgap]; decide), escaped_cons_special hc]
    | false =>
      rw [escaped_cons_of_not_special hc, skipGap, skipGap, List.dropWhile_cons,
        List.dropWhile_cons]
      cases isGap c with
      | true => exact ih
      | false => exact (escaped_cons_of_not_special hc s).symm

theorem takeGap_escaped (s : List Char) : takeGap (escaped s) = (takeGap s).map escaped := by
  cases s with
  | nil => rfl
  | cons c s =>
    cases hc : expressionSpecials.contains c with
    | true =>
      rw [escaped_cons_special hc, takeGap, takeGap, isGap_of_special hc]
      rfl
    | false =>
      rw [escaped_cons_of_not_special hc, takeGap, takeGap]
      cases isGap c with
      | true => exact congrArg some (skipGap_escaped s)
      | false => rfl

theorem takeTag_eq_some_iff {tag : String} {r : List Char} :
    takeTag tag s = some r ↔ s = tag.toList ++ r := by
  have hlength : tag.length = tag.toList.length := String.length_toList.symm
  rw [takeTag]
  split
  · next h =>
    obtain ⟨t, rfl⟩ := List.isPrefixOf_iff_prefix.mp h
    rw [Option.some.injEq, hlength, List.drop_left, List.append_cancel_left_eq]
  · next h =>
    refine iff_of_false (by simp) fun heq => h (List.isPrefixOf_iff_prefix.mpr ⟨r, heq.symm⟩)

/-- A tag without characters that get a backslash. -/
theorem takeTag_escaped {tag : String}
    (htag : ∀ c ∈ tag.toList, expressionSpecials.contains c = false) (s : List Char) :
    takeTag tag (escaped s) = (takeTag tag s).map escaped := by
  ext r
  rw [takeTag_eq_some_iff, escaped_eq_append_iff htag, Option.map_eq_some_iff]
  exact exists_congr fun t => and_congr takeTag_eq_some_iff.symm eq_comm

/-- What stands at the front of an escaped text, if it is no backslash, stands at the front of the
text and gets none. -/
theorem front_of_escaped_eq_cons {c : Char} (hne : c ≠ '\\') {r : List Char}
    (h : escaped s = c :: r) : s.head? = some c ∧ expressionSpecials.contains c = false := by
  cases s with
  | nil => cases h
  | cons d s =>
    cases hd : expressionSpecials.contains d with
    | true =>
      rw [escaped_cons_special hd] at h
      exact absurd (List.cons.inj h).1.symm hne
    | false =>
      rw [escaped_cons_of_not_special hd] at h
      obtain rfl := (List.cons.inj h).1
      exact ⟨rfl, hd⟩

/-- No character stands at the front of an escaped text that should have a backslash there. -/
theorem escaped_ne_cons {c : Char} (hc : expressionSpecials.contains c = true) (hne : c ≠ '\\')
    (s r : List Char) : escaped s ≠ c :: r := by
  intro h
  rw [(front_of_escaped_eq_cons hne h).2] at hc
  cases hc

theorem takeTag_escaped_eq_none {tag : String} {c : Char} {l : List Char}
    (htag : tag.toList = c :: l) (hc : expressionSpecials.contains c = true) (hne : c ≠ '\\')
    (s : List Char) :
    takeTag tag (escaped s) = none := by
  rw [Option.eq_none_iff_forall_ne_some]
  intro r hr
  rw [takeTag_eq_some_iff, htag] at hr
  exact escaped_ne_cons hc hne s _ hr

end Tags

/-! ### What no reader finds -/

section Absent

variable (s : List Char)

theorem takeSign_escaped : takeSign (escaped s) = (none, escaped s) := by
  unfold takeSign
  split
  · next h => exact absurd h (escaped_ne_cons (by decide) (by decide) s _)
  · next h => exact absurd h (escaped_ne_cons (by decide) (by decide) s _)
  · rfl

theorem takeBoost_escaped (e : Expression) : takeBoost e (escaped s) = (e, escaped s) := by
  unfold takeBoost
  split
  · next h => exact absurd h (escaped_ne_cons (by decide) (by decide) s _)
  · rfl

theorem takeSlop_escaped : takeSlop (escaped s) = ((0, false), escaped s) := by
  unfold takeSlop
  split
  · next h => exact absurd h (escaped_ne_cons (by decide) (by decide) s _)
  · next h => exact absurd h (escaped_ne_cons (by decide) (by decide) s _)
  · rfl

theorem takeNegative_escaped : takeNegative (escaped s) = none := by
  unfold takeNegative
  split
  · next h => exact absurd h (escaped_ne_cons (by decide) (by decide) s _)
  · rfl

theorem takeInterval_escaped : takeInterval (escaped s) = none := by
  unfold takeInterval
  split
  · next h => exact absurd h (escaped_ne_cons (by decide) (by decide) s _)
  · next h => exact absurd h (escaped_ne_cons (by decide) (by decide) s _)
  · rfl

theorem takePresent_escaped : takePresent (escaped s) = none := by
  rw [takePresent, skipGap_escaped,
    takeTag_escaped_eq_none (c := '*') (l := []) (by decide) (by decide) (by decide)]
  rfl

theorem takeSet_escaped : takeSet (escaped s) = none := by
  rw [takeSet, skipGap_escaped, takeTag_escaped (by decide)]
  cases takeTag "IN" (skipGap s) with
  | none => rfl
  | some r =>
    rw [Option.map_some, Option.bind_eq_bind, Option.bind_some, takeGap_escaped]
    cases takeGap r with
    | none => rfl
    | some r =>
      rw [Option.map_some, Option.bind_some,
        takeTag_escaped_eq_none (c := '[') (l := []) (by decide) (by decide) (by decide)]
      rfl

theorem nameRest_cons {c : Char} (hc : c ≠ '\\') (r : List Char) :
    nameRest (c :: r) =
      if nameSpecials.contains c then ([], c :: r) else (c :: (nameRest r).1, (nameRest r).2) := by
  rw [nameRest]
  · exact fun _ _ h _ => hc h
  · exact fun h _ => hc h

/-- The characters of a name end where an escaped text can go on. -/
theorem exists_nameRest_escaped : ∃ t, (nameRest (escaped s)).2 = escaped t := by
  induction s with
  | nil => exact ⟨[], rfl⟩
  | cons c s ih =>
    cases hc : expressionSpecials.contains c with
    | true =>
      rw [escaped_cons_special hc, nameRest]
      split
      · exact ih
      · next hname =>
        have hne : c ≠ '\\' := by
          rintro rfl
          exact hname (by decide)
        rw [nameRest_cons hne, if_neg hname]
        exact ih
    | false =>
      have hne : c ≠ '\\' := by
        rintro rfl
        exact absurd hc (by decide)
      rw [escaped_cons_of_not_special hc, nameRest_cons hne]
      split
      · exact ⟨c :: s, (escaped_cons_of_not_special hc s).symm⟩
      · exact ih

/-- **An escaped text names no field**: its colons have a backslash. -/
theorem takeFieldName_escaped : takeFieldName (escaped s) = none := by
  have hcolon (t : List Char) : takeTag ":" (skipGap (escaped t)) = none := by
    rw [skipGap_escaped]
    exact takeTag_escaped_eq_none (c := ':') (l := []) (by decide) (by decide) (by decide) _
  have hbehind (first : Char) (s : List Char) :
      ((takeTag ":" (skipGap (nameRest (escaped s)).2)).bind fun r =>
        some (String.ofList (first :: (nameRest (escaped s)).1), skipGap r)) = none := by
    obtain ⟨t, ht⟩ := exists_nameRest_escaped s
    rw [ht, hcolon]
    rfl
  cases s with
  | nil => rfl
  | cons c s =>
    cases hc : expressionSpecials.contains c with
    | true =>
      rw [escaped_cons_special hc, takeFieldName]
      split
      · exact hbehind c s
      · rfl
    | false =>
      rw [escaped_cons_of_not_special hc, takeFieldName]
      · split
        · rfl
        · exact hbehind c s
      · rintro d r rfl
        exact absurd hc (by decide)

end Absent

/-! ### Words and texts in quotes -/

section Words

variable {s w r : List Char}

theorem wordRest_cons {c : Char} (hc : c ≠ '\\') (r : List Char) :
    wordRest (c :: r) = if isBlank c || wordSpecials.contains c then ([], c :: r)
      else (c :: (wordRest r).1, (wordRest r).2) := by
  rw [wordRest]
  exact fun _ _ h _ => hc h

/-- A word of an escaped text ends in front of a blank, a backtick or a single quote. -/
theorem wordRest_escaped (s : List Char) :
    wordRest (escaped s) =
      (escaped (s.takeWhile isWordChar), escaped (s.dropWhile isWordChar)) := by
  induction s with
  | nil => rfl
  | cons c s ih =>
    cases hc : expressionSpecials.contains c with
    | true =>
      have hword := isWordChar_of_special hc
      rw [escaped_cons_special hc, wordRest, ih, List.takeWhile_cons_of_pos hword,
        List.dropWhile_cons_of_pos hword, escaped_cons_special hc]
    | false =>
      have hne : c ≠ '\\' := by
        rintro rfl
        exact absurd hc (by decide)
      rw [escaped_cons_of_not_special hc, wordRest_cons hne, endsWord_eq hc, ih]
      cases hword : isWordChar c with
      | true =>
        rw [List.takeWhile_cons_of_pos hword, List.dropWhile_cons_of_pos hword,
          escaped_cons_of_not_special hc]
        rfl
      | false =>
        have hword : ¬ isWordChar c = true := by rw [hword]; decide
        rw [List.takeWhile_cons_of_neg hword, List.dropWhile_cons_of_neg hword,
          escaped_cons_of_not_special hc]
        rfl

theorem reservedWords_escaped (w : List Char) :
    reservedWords.contains (String.ofList (escaped w)) =
      reservedWords.contains (String.ofList w) := by
  have hall : ∀ v ∈ reservedWords, ∀ c ∈ v.toList, expressionSpecials.contains c = false := by
    decide
  have hiff : ∀ v ∈ reservedWords, String.ofList (escaped w) = v ↔ String.ofList w = v := by
    intro v hv
    have h := escaped_eq_append_iff (s := w) (r := []) (hall v hv)
    rw [List.append_nil] at h
    rw [← String.ofList_toList (s := v), String.ofList_inj, String.ofList_inj, h]
    constructor
    · rintro ⟨t, rfl, ht⟩
      rw [escaped_eq_nil_iff.mp ht.symm, List.append_nil]
    · exact fun heq => ⟨[], by rw [heq, List.append_nil], rfl⟩
  rw [Bool.eq_iff_iff, List.contains_iff_mem, List.contains_iff_mem]
  constructor
  · intro h
    exact (hiff _ h).mp rfl ▸ h
  · intro h
    exact (hiff _ h).mpr rfl ▸ h

theorem takeWord_escaped (s : List Char) : takeWord (escaped s) =
    if (s.takeWhile isWordChar).isEmpty ||
        reservedWords.contains (String.ofList (s.takeWhile isWordChar)) then none
    else some (String.ofList (unescapeWord (escaped (s.takeWhile isWordChar))),
      escaped (s.dropWhile isWordChar)) := by
  have hminus : ¬ ((escaped s).head? == some '-') = true := by
    rw [beq_iff_eq, List.head?_eq_some_iff]
    rintro ⟨r, h⟩
    exact escaped_ne_cons (by decide) (by decide) s r h
  have hempty : (escaped (s.takeWhile isWordChar)).isEmpty = (s.takeWhile isWordChar).isEmpty := by
    rw [Bool.eq_iff_iff, List.isEmpty_iff, List.isEmpty_iff, escaped_eq_nil_iff]
  rw [takeWord, if_neg hminus, wordRest_escaped]
  simp only [hempty, reservedWords_escaped]

theorem takeQuoted_cons {quote c : Char} (hc : c ≠ '\\') (r : List Char) :
    takeQuoted quote (c :: r) = if c == quote then some ([], r)
      else (takeQuoted quote r).map fun p => (c :: p.1, p.2) := by
  rw [takeQuoted]
  exact fun _ _ h _ => hc h

/-- Within single quotes a character is read as what it was before. -/
theorem takeQuoted_escaped_cons {c : Char} (hc : c ≠ '\'') (s : List Char) :
    takeQuoted '\'' (escaped (c :: s)) =
      (takeQuoted '\'' (escaped s)).map fun p => (c :: p.1, p.2) := by
  cases hspecial : expressionSpecials.contains c with
  | true => rw [escaped_cons_special hspecial, takeQuoted]
  | false =>
    have hne : c ≠ '\\' := by
      rintro rfl
      exact absurd hspecial (by decide)
    rw [escaped_cons_of_not_special hspecial, takeQuoted_cons hne, if_neg (by simpa using hc)]

/-- A text in single quotes is what it was before. -/
theorem takeQuoted_escaped (hw : '\'' ∉ w) (r : List Char) :
    takeQuoted '\'' (escaped (w ++ '\'' :: r)) = some (w, escaped r) := by
  induction w with
  | nil =>
    rw [List.nil_append, escaped_cons_of_not_special (by decide), takeQuoted_cons (by decide)]
    rfl
  | cons c w ih =>
    rw [List.mem_cons, not_or] at hw
    rw [List.cons_append, takeQuoted_escaped_cons (Ne.symm hw.1), ih hw.2]
    rfl

theorem takeQuoted_escaped_eq_none (hs : '\'' ∉ s) : takeQuoted '\'' (escaped s) = none := by
  induction s with
  | nil => rfl
  | cons c s ih =>
    rw [List.mem_cons, not_or] at hs
    rw [takeQuoted_escaped_cons (Ne.symm hs.1), ih hs.2]
    rfl

/-- In front of anything but a single quote a text is a word. -/
theorem takeText_escaped_of_head (hs : s.head? ≠ some '\'') :
    takeText (escaped s) = takeWord (escaped s) := by
  unfold takeText
  rw [takeNegative_escaped]
  split
  · next h => exact absurd (front_of_escaped_eq_cons (by decide) h).1 hs
  · next h => exact absurd h (escaped_ne_cons (by decide) (by decide) s _)
  · rfl

theorem takeText_escaped_quote (s : List Char) : takeText (escaped ('\'' :: s)) =
    (takeQuoted '\'' (escaped s)).map fun p => (String.ofList p.1, p.2) := by
  have hword : takeWord (escaped ('\'' :: s)) = none := by
    rw [takeWord_escaped, List.takeWhile_cons_of_neg (by decide)]
    rfl
  unfold takeText
  rw [takeNegative_escaped, hword, escaped_cons_of_not_special (by decide)]
  change (none <|> (takeQuoted '\'' (escaped s)).map (fun p => (String.ofList p.1, p.2)) <|>
    none) = _
  cases takeQuoted '\'' (escaped s) <;> rfl

/-- **What stands at the front of a text is read from the escaped text.** -/
theorem Opens.exists_takeText (h : Opens s w r) :
    ∃ x, Spells x w ∧ takeText (escaped s) = some (x, escaped r) := by
  cases h with
  | quoted hw r =>
    refine ⟨String.ofList w, .inl rfl, ?_⟩
    rw [takeText_escaped_quote, takeQuoted_escaped hw]
    rfl
  | word hne hw hr hreserved =>
    refine ⟨String.ofList (unescapeWord (escaped w)), .inr rfl, ?_⟩
    have htake : r.takeWhile isWordChar = [] ∧ r.dropWhile isWordChar = r := by
      cases r with
      | nil => exact ⟨rfl, rfl⟩
      | cons c r =>
        have hc : ¬ isWordChar c = true := by rw [hr c rfl]; decide
        exact ⟨List.takeWhile_cons_of_neg hc, List.dropWhile_cons_of_neg hc⟩
    have hhead : (w ++ r).head? ≠ some '\'' := by
      obtain ⟨c, w, rfl⟩ := List.exists_cons_of_ne_nil hne
      rintro heq
      obtain rfl := Option.some.inj heq
      exact absurd (hw _ (List.mem_cons_self ..)) (by decide)
    rw [takeText_escaped_of_head hhead, takeWord_escaped, List.takeWhile_append_of_pos hw,
      List.dropWhile_append_of_pos hw, htake.1, htake.2, List.append_nil, hreserved,
      List.isEmpty_eq_false_iff.mpr hne]
    rfl

/-- **What is read from an escaped text stands at the front of the text.** -/
theorem exists_opens_of_takeText {x : String} {r' : List Char}
    (h : takeText (escaped s) = some (x, r')) :
    ∃ w r, Opens s w r ∧ Spells x w ∧ r' = escaped r := by
  by_cases hs : s.head? = some '\''
  · obtain ⟨t, rfl⟩ := List.head?_eq_some_iff.mp hs
    rw [takeText_escaped_quote] at h
    by_cases ht : '\'' ∈ t
    · obtain ⟨w, r, rfl, hw⟩ := List.eq_append_cons_of_mem ht
      rw [takeQuoted_escaped hw] at h
      obtain ⟨rfl, rfl⟩ := Prod.mk.inj (Option.some.inj h)
      exact ⟨w, r, .quoted hw r, .inl rfl, rfl⟩
    · rw [takeQuoted_escaped_eq_none ht] at h
      cases h
  · rw [takeText_escaped_of_head hs, takeWord_escaped] at h
    split at h
    · cases h
    · next hword =>
      obtain ⟨rfl, rfl⟩ := Prod.mk.inj (Option.some.inj h)
      rw [Bool.or_eq_true, not_or, Bool.not_eq_true, Bool.not_eq_true,
        List.isEmpty_eq_false_iff] at hword
      refine ⟨_, _, ?_, .inr rfl, rfl⟩
      have hopens := Opens.word (r := s.dropWhile isWordChar) hword.1
        (fun c hc => (List.mem_takeWhile_imp hc)) ?_ hword.2
      · rwa [List.takeWhile_append_dropWhile] at hopens
      · intro c hc
        have hhead := List.head?_dropWhile_not isWordChar s
        rw [hc] at hhead
        exact hhead

/-- The backslashes that are left in an escaped word stand in front of separators. -/
theorem agreesBy_unescapeWord_escaped {isSep : Char → Bool}
    (h : ∀ c ∈ expressionSpecials, isSep c = true) (w : List Char) :
    AgreesBy isSep w (unescapeWord (escaped w)) := by
  induction w with
  | nil => exact ⟨[], [], [], rfl, rfl, rfl⟩
  | cons c w ih =>
    cases hc : expressionSpecials.contains c with
    | true =>
      have hsep := h c (List.contains_iff_mem.mp hc)
      rw [escaped_cons_special hc, unescapeWord]
      split
      · exact ih.cons c
      · exact (ih.cons c).cons_sep (h '\\' (by decide)) hsep
    | false =>
      have hne : c ≠ '\\' := by
        rintro rfl
        cases hc
      rw [escaped_cons_of_not_special hc, unescapeWord]
      · exact ih.cons c
      · exact fun _ _ heq _ => hne heq
      · exact fun heq _ => hne heq

end Words

/-! ### Comparisons -/

section Comparisons

variable {s : List Char}

theorem beginsBoundary_of_special {c : Char} (h : expressionSpecials.contains c = true) :
    beginsBoundary c = true := by
  have hall : ∀ c ∈ expressionSpecials, beginsBoundary c = true := by decide
  exact hall c (List.contains_iff_mem.mp h)

theorem isSome_takeBoundary_escaped (s : List Char) :
    (takeBoundary (escaped s)).isSome = s.head?.any beginsBoundary := by
  unfold takeBoundary
  rw [takeNegative_escaped]
  cases s with
  | nil => rfl
  | cons c s =>
    cases hc : expressionSpecials.contains c with
    | true =>
      rw [escaped_cons_special hc, List.head?_cons, Option.any_some, beginsBoundary_of_special hc]
      rfl
    | false =>
      have hall : ∀ d ∈ boundarySpecials, expressionSpecials.contains d = true := by decide
      have hnot : boundarySpecials.contains c = false := by
        rw [Bool.eq_false_iff]
        intro h
        rw [hall c (List.contains_iff_mem.mp h)] at hc
        cases hc
      rw [escaped_cons_of_not_special hc, List.head?_cons, Option.any_some]
      simp only [hnot, Bool.or_false]
      rw [beginsBoundary]
      cases isBlank c || c == '\x60' <;> rfl

theorem map_findSome?_escaped {l : List (String × (String → WrittenEnd × WrittenEnd))}
    (hl : ∀ c ∈ l, ∀ d ∈ c.1.toList, expressionSpecials.contains d = false) (s : List Char) :
    (l.findSome? fun c => (takeTag c.1 (escaped s)).map fun r => (c.2, r)).map Prod.snd =
      (l.findSome? fun c => takeTag c.1 s).map escaped := by
  induction l with
  | nil => rfl
  | cons c l ih =>
    rw [List.forall_mem_cons] at hl
    rw [List.findSome?_cons, List.findSome?_cons, takeTag_escaped hl.1]
    cases takeTag c.1 s with
    | none => exact ih hl.2
    | some r => rfl

/-- **A comparison is read just if there is one.** -/
theorem isSome_takeComparison_escaped (s : List Char) :
    (takeComparison (escaped s)).isSome = beginsComparison (skipGap s) := by
  have hsign := map_findSome?_escaped (l := comparisons) (by decide) (skipGap s)
  rw [← skipGap_escaped] at hsign
  rw [beginsComparison, behindSign]
  unfold takeComparison
  simp only [Option.bind_eq_bind]
  cases hread : comparisons.findSome? fun c =>
      (takeTag c.1 (skipGap (escaped s))).map fun r => (c.2, r) with
  | none =>
    rw [hread, Option.map_none, eq_comm, Option.map_eq_none_iff] at hsign
    rw [hsign]
    rfl
  | some p =>
    rw [hread, Option.map_some, eq_comm, Option.map_eq_some_iff] at hsign
    obtain ⟨r, hr, hescaped⟩ := hsign
    rw [hr, Option.any_some, ← isSome_takeBoundary_escaped, ← skipGap_escaped, hescaped,
      Option.bind_some]
    cases takeBoundary (skipGap p.2) <;> rfl

/-- A comparison is a range of which the field is not named. -/
theorem exists_range_of_takeComparison {p : Expression × List Char}
    (h : takeComparison s = some p) : ∃ lower upper, p.1 = .range none lower upper := by
  unfold takeComparison at h
  simp only [Option.bind_eq_bind, Option.bind_eq_some_iff] at h
  obtain ⟨q, -, b, -, h⟩ := h
  exact ⟨_, _, congrArg Prod.fst (Option.some.inj h).symm⟩

end Comparisons

end Catalog.Expression
