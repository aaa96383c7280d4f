import Catalog.Proofs.Text.Regex.Matching
import Catalog.Text.Regex.States
import Mathlib.Data.List.Perm.Subperm

/-!
# The states of the expression of a literal

The search for states ends well if all states that may be reached lie in a list that is short
enough. The expression of a text without wildcards has one state for each byte of the text, and a
few for the repeated dot behind it.

## Main definitions

* `beginningStates`: a list that no state of such an expression is outside of

## Main results

* `Regex.explore_of_closed`: the search within a list that no step leaves
* `hasFewStates_beginning`: the expression of a literal has few states
-/

namespace Catalog

/-- A list without its repetitions has none. -/
theorem nodup_eraseDups {α : Type} [BEq α] [LawfulBEq α] (l : List α) : l.eraseDups.Nodup := by
  induction hn : l.length using Nat.strongRecOn generalizing l with
  | ind n ih =>
    cases l with
    | nil => exact List.nodup_nil
    | cons a l =>
      rw [List.length_cons] at hn
      have hlength := List.length_filter_le (fun b => !b == a) l
      rw [List.eraseDups_cons, List.nodup_cons]
      refine ⟨fun hmem => ?_, ih _ (by omega) _ rfl⟩
      have hne := (List.mem_filter.mp (List.mem_eraseDups.mp hmem)).2
      rw [beq_self_eq_true] at hne
      exact absurd hne (by decide)

namespace Regex

/-- **The search for states** ends well within a list that no step leaves and that is short
enough. -/
theorem explore_of_closed {x : Regex} {most : Nat} {S : List (List RegexPlace)}
    (hclosed : ∀ s ∈ S, ∀ t ∈ x.successors s, t ∈ S) (hsize : S.length ≤ most) {fuel : Nat}
    {todo found : List (List RegexPlace)} (htodo : todo ⊆ S) (hfound : found ⊆ S)
    (hnodup : found.Nodup) (hfuel : S.length + todo.length ≤ fuel + found.length) :
    x.explore most fuel todo found = true := by
  induction fuel generalizing todo found with
  | zero =>
    have hlength := (hnodup.subperm hfound).length_le
    have hnil : todo = [] := List.eq_nil_of_length_eq_zero (by omega)
    rw [hnil]
    rfl
  | succ fuel ih =>
    cases todo with
    | nil => rfl
    | cons s rest =>
      rw [List.cons_subset] at htodo
      have hnew : ((x.successors s).filter fun t => !found.contains t) ⊆ S := fun t ht =>
        hclosed s htodo.1 t (List.mem_filter.mp ht).1
      have hnewNodup : (((x.successors s).filter fun t => !found.contains t) ++ found).Nodup := by
        refine List.nodup_append.mpr ⟨((nodup_eraseDups _).filter _).filter _, hnodup, ?_⟩
        rintro t ht _ htfound rfl
        have := (List.mem_filter.mp ht).2
        rw [List.contains_iff_mem.mpr htfound] at this
        exact absurd this (by decide)
      have hsubset := List.append_subset.mpr ⟨hnew, hfound⟩
      have hlength := (hnewNodup.subperm hsubset).length_le
      rw [List.length_append] at hlength
      rw [List.length_cons] at hfuel
      rw [explore, if_neg (by omega)]
      refine ih (List.append_subset.mpr ⟨hnew, htodo.2⟩) hsubset hnewNodup ?_
      rw [List.length_append, List.length_append]
      omega

/-! ### Steps from single places -/

@[simp] theorem addPlaces_nil (places : List RegexPlace) : addPlaces [] places = places := by
  unfold addPlaces
  cases places <;> rfl

theorem addPlaces_of_nil (state : List RegexPlace) : addPlaces state [] = state := by
  simp [addPlaces]

theorem step_singleton (x : Regex) (b : Nat) (p : RegexPlace) : x.step b [p] = x.stepPlace b p := by
  rw [step, List.foldl_cons, List.foldl_nil, addPlaces_nil]

/-- From a place a byte leads nowhere, behind a character, or further into one. -/
theorem stepPlace_cases (x : Regex) (b : Nat) (p : RegexPlace) :
    x.stepPlace b p = [] ∨ x.stepPlace b p = x.placesBehind p.item ∨
      ∃ n ranges, (n, ranges) ∈ x.due p ∧ 2 ≤ ranges.length ∧
        x.stepPlace b p = [⟨p.item, n, p.read + 1⟩] := by
  unfold stepPlace
  split
  · exact .inr (.inl rfl)
  · next n ranges hnot hfind =>
    refine .inr (.inr ⟨n, ranges, List.mem_of_find?_eq_some hfind, ?_, rfl⟩)
    have hhead := List.find?_some hfind
    cases ranges with
    | nil => exact absurd hhead (by simp)
    | cons r ranges =>
      cases ranges with
      | nil => exact absurd rfl (hnot r)
      | cons q ranges => simp
  · exact .inl rfl

theorem length_of_mem_forms {a : RegexAtom} {form : List ByteRange} (h : form ∈ a.forms) :
    form.length ≤ 4 := by
  cases a with
  | char c =>
    rw [RegexAtom.forms, List.mem_singleton] at h
    rw [h, List.length_map, String.length_utf8EncodeChar]
    exact c.utf8Size_le_four
  | dot =>
    have hall : ∀ form ∈ dotForms, form.length ≤ 4 := by decide
    exact hall form h

/-- What is due in a place is the rest of a form of its item, and no form has more than four
bytes. -/
theorem mem_due {x : Regex} {p : RegexPlace} {i : RegexItem} (hi : x.items[p.item]? = some i)
    {n : Nat} {ranges : List ByteRange} (h : (n, ranges) ∈ x.due p) (hlength : 2 ≤ ranges.length) :
    n < i.atom.forms.length ∧ p.read + ranges.length ≤ 4 := by
  rw [due, hi] at h
  obtain ⟨⟨form, m⟩, hmem, heq⟩ := List.mem_map.mp h
  obtain ⟨rfl, rfl⟩ := Prod.mk.inj heq
  have hzip := (List.mem_filter.mp hmem).1
  have hform : form.length ≤ 4 := length_of_mem_forms (List.fst_mem_of_mem_zipIdx hzip)
  have hindex := List.snd_lt_of_mem_zipIdx hzip
  rw [List.length_drop] at hlength ⊢
  exact ⟨by simpa using hindex, by omega⟩

end Regex

/-! ### The states of a literal -/

/-- The states that the expression of a literal of some length may be in: within a character, within
a character that the dot stands for, or in front of the dot. -/
def beginningStates (length : Nat) : List (List RegexPlace) :=
  (List.range (4 * length)).map (fun m => [⟨m / 4, 0, m % 4⟩]) ++
    (List.range 40).map (fun m => [⟨length, m / 4, m % 4⟩]) ++
    [[⟨length, 0, 0⟩, ⟨length + 1, 0, 0⟩]]

theorem length_beginningStates (n : Nat) : (beginningStates n).length = 4 * n + 41 := by
  simp [beginningStates]

theorem mem_beginningStates {n : Nat} {s : List RegexPlace} :
    s ∈ beginningStates n ↔ (∃ i < n, ∃ k < 4, s = [⟨i, 0, k⟩]) ∨
      (∃ f < 10, ∃ k < 4, s = [⟨n, f, k⟩]) ∨ s = [⟨n, 0, 0⟩, ⟨n + 1, 0, 0⟩] := by
  simp only [beginningStates, List.append_assoc, List.mem_append, List.mem_map, List.mem_range,
    List.mem_singleton]
  refine or_congr ⟨?_, ?_⟩ (or_congr ⟨?_, ?_⟩ Iff.rfl)
  · rintro ⟨m, hm, rfl⟩
    exact ⟨m / 4, by omega, m % 4, by omega, rfl⟩
  · rintro ⟨i, hi, k, hk, rfl⟩
    exact ⟨4 * i + k, by omega, by rw [show (4 * i + k) / 4 = i by omega,
      show (4 * i + k) % 4 = k by omega]⟩
  · rintro ⟨m, hm, rfl⟩
    exact ⟨m / 4, by omega, m % 4, by omega, rfl⟩
  · rintro ⟨f, hf, k, hk, rfl⟩
    exact ⟨4 * f + k, by omega, by rw [show (4 * f + k) / 4 = f by omega,
      show (4 * f + k) % 4 = k by omega]⟩

section

variable (s : List Char)

theorem getElem?_beginningItems {i : Nat} (hi : i < s.length) :
    ∃ c, (beginningItems s)[i]? = some ⟨.char c, false⟩ := by
  refine ⟨s[i], ?_⟩
  rw [beginningItems, List.getElem?_append_left (by simpa using hi), List.getElem?_map,
    List.getElem?_eq_getElem hi]
  rfl

theorem drop_beginningItems : (beginningItems s).drop s.length = [⟨.dot, true⟩] := by
  rw [beginningItems, List.drop_append_of_le_length (by simp), List.drop_eq_nil_of_le (by simp)]
  rfl

theorem getElem?_beginningItems_length :
    (beginningItems s)[s.length]? = some ⟨.dot, true⟩ := by
  rw [← List.head?_drop, drop_beginningItems]
  rfl

/-- The state in front of an item is one of the list. -/
theorem startPlaces_mem {i : Nat} (hi : i ≤ s.length) :
    startPlaces i ((beginningItems s).drop i) ∈ beginningStates s.length := by
  rw [mem_beginningStates]
  rcases Nat.lt_or_eq_of_le hi with hi | rfl
  · obtain ⟨c, hc⟩ := getElem?_beginningItems s hi
    obtain ⟨hlt, hget⟩ := List.getElem?_eq_some_iff.mp hc
    rw [List.drop_eq_getElem_cons hlt, hget]
    exact .inl ⟨i, hi, 0, by decide, rfl⟩
  · rw [drop_beginningItems]
    exact .inr (.inr rfl)

theorem placesBehind_mem {i : Nat} (hi : i ≤ s.length) :
    (Regex.mk (beginningItems s)).placesBehind i ∈ beginningStates s.length := by
  unfold Regex.placesBehind
  rcases Nat.lt_or_eq_of_le hi with hi | rfl
  · obtain ⟨c, hc⟩ := getElem?_beginningItems s hi
    rw [hc]
    exact startPlaces_mem s hi
  · rw [getElem?_beginningItems_length]
    exact startPlaces_mem s (Nat.le_refl _)

/-- A byte leads from a place in front of or within a character to a state of the list. -/
theorem stepPlace_mem (b : Nat) {p : RegexPlace} (hp : p.item ≤ s.length) :
    (Regex.mk (beginningItems s)).stepPlace b p = [] ∨
      (Regex.mk (beginningItems s)).stepPlace b p ∈ beginningStates s.length := by
  rcases Regex.stepPlace_cases ⟨beginningItems s⟩ b p with h | h | ⟨n, ranges, hdue, hlength, h⟩
  · exact .inl h
  · exact .inr (h ▸ placesBehind_mem s hp)
  · refine .inr ?_
    rw [h, mem_beginningStates]
    rcases Nat.lt_or_eq_of_le hp with hlt | heq
    · obtain ⟨c, hc⟩ := getElem?_beginningItems s hlt
      obtain ⟨hform, hread⟩ := Regex.mem_due hc hdue hlength
      have hn : n = 0 := Nat.lt_one_iff.mp hform
      exact .inl ⟨p.item, hlt, p.read + 1, by omega, by rw [hn]⟩
    · have hdot := getElem?_beginningItems_length s
      rw [← heq] at hdot
      obtain ⟨hform, hread⟩ := Regex.mem_due hdot hdue hlength
      exact .inr (.inl ⟨n, hform, p.read + 1, by omega, by rw [heq]⟩)

theorem step_mem (b : Nat) {state : List RegexPlace} (h : state ∈ beginningStates s.length) :
    (Regex.mk (beginningItems s)).step b state = [] ∨
      (Regex.mk (beginningItems s)).step b state ∈ beginningStates s.length := by
  rcases mem_beginningStates.mp h with ⟨i, hi, k, -, rfl⟩ | ⟨f, -, k, -, rfl⟩ | rfl
  · rw [Regex.step_singleton]
    exact stepPlace_mem s b (Nat.le_of_lt hi)
  · rw [Regex.step_singleton]
    exact stepPlace_mem s b (Nat.le_refl _)
  · -- The place at which the expression has matched leads nowhere.
    have hmatched : (Regex.mk (beginningItems s)).stepPlace b ⟨s.length + 1, 0, 0⟩ = [] := by
      have hnone : (beginningItems s)[s.length + 1]? = none := by simp [beginningItems]
      rw [Regex.stepPlace, Regex.due, hnone]
      rfl
    rw [Regex.step, List.foldl_cons, List.foldl_cons, List.foldl_nil, hmatched,
      Regex.addPlaces_of_nil, Regex.addPlaces_nil]
    exact stepPlace_mem s b (Nat.le_refl _)

/-- **The expression of a literal has few states**, unless the literal is very long. -/
theorem hasFewStates_beginning (hs : 4 * s.length + 41 ≤ Regex.mostStates) :
    (Regex.mk (beginningItems s)).hasFewStates = true := by
  have hstart := startPlaces_mem s (Nat.zero_le s.length)
  refine Regex.explore_of_closed (S := beginningStates s.length) ?_ ?_ ?_ ?_ ?_ ?_
  · intro state hstate t ht
    obtain ⟨hmap, hne⟩ := List.mem_filter.mp ht
    obtain ⟨b, -, rfl⟩ := List.mem_map.mp (List.mem_eraseDups.mp hmap)
    refine (step_mem s b hstate).resolve_left fun hnil => ?_
    rw [hnil] at hne
    exact absurd hne (by decide)
  · rwa [length_beginningStates]
  · simpa using hstart
  · simpa using hstart
  · simp
  · rw [length_beginningStates, List.length_singleton]
    omega

end

end Catalog
