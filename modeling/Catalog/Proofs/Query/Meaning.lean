import Catalog.Query.Expression.Meaning
import Mathlib.Data.Option.NAry

/-!
# What an expression asks for

An expression that asks for nothing but what must not match is refused. Whether it does can be said
of its parts one by one: neither the junctions nor the groups that are made of them matter, and
needless groups may be taken off.

## Main definitions

* `Expression.negativity`: whether an expression is all negations, if it has a meaning
* `Expression.allNegative`: the same of several parts together

## Main results

* `Expression.negativity_flattened`, `Expression.negativity_joined`: it can be said of the parts
* `Expression.isPositive_joined_iff`: when several parts ask for something
-/

namespace Catalog.Expression

open Meaning

variable {scope : FieldScope}

/-- Whether an expression asks for nothing but what must not match, if it has a meaning. -/
def negativity (scope : FieldScope) (e : Expression) : Option Bool :=
  (e.meaning? scope).map isNegative

/-- The same for a part of a clause. -/
def partNegativity (scope : FieldScope) (p : Option Occur × Expression) : Option Bool :=
  (negativity scope p.2).map (p.1 == some .mustNot || ·)

/-- The same for several parts together. -/
def allNegative (l : List (Option Bool)) : Option Bool :=
  l.foldr (Option.map₂ and) (some true)

/-! ### Parts together -/

theorem allNegative_cons (a : Option Bool) (l : List (Option Bool)) :
    allNegative (a :: l) = Option.map₂ and a (allNegative l) := rfl

theorem allNegative_append (l l' : List (Option Bool)) :
    allNegative (l ++ l') = Option.map₂ and (allNegative l) (allNegative l') := by
  induction l with
  | nil => exact (Option.map_id' ..).symm
  | cons a l ih =>
    rw [List.cons_append, allNegative_cons, ih, allNegative_cons, Option.map₂_assoc]
    exact Bool.and_assoc

theorem allNegative_singleton (a : Option Bool) : allNegative [a] = a := by
  cases a with
  | none => rfl
  | some b => cases b <;> rfl

theorem allNegative_flatten (l : List (List (Option Bool))) :
    allNegative l.flatten = allNegative (l.map allNegative) := by
  induction l with
  | nil => rfl
  | cons a l ih => rw [List.flatten_cons, allNegative_append, ih, List.map_cons, allNegative_cons]

theorem allNegative_eq_none_iff {l : List (Option Bool)} : allNegative l = none ↔ none ∈ l := by
  induction l with
  | nil => simp [allNegative]
  | cons a l ih =>
    rw [allNegative_cons, Option.map₂_eq_none_iff, ih, List.mem_cons, eq_comm]

theorem allNegative_eq_false_iff {l : List (Option Bool)} :
    allNegative l = some false ↔ none ∉ l ∧ some false ∈ l := by
  induction l with
  | nil => simp [allNegative]
  | cons a l ih =>
    have htrue : allNegative l = some true → none ∉ l ∧ some false ∉ l := fun h => by
      have hnone : none ∉ l := fun hmem => by
        rw [allNegative_eq_none_iff.mpr hmem] at h
        cases h
      refine ⟨hnone, fun hmem => ?_⟩
      rw [ih.mpr ⟨hnone, hmem⟩] at h
      cases h
    rw [allNegative_cons]
    cases a with
    | none => simp
    | some a =>
      cases hl : allNegative l with
      | none => simp [allNegative_eq_none_iff.mp hl]
      | some b =>
        cases b with
        | false =>
          have := ih.mp hl
          cases a <;> simp [this]
        | true =>
          have := htrue hl
          cases a <;> simp [this]

/-! ### Clauses -/

theorem map_arePartsNegative (parts : List (Option Occur × Expression)) :
    (partMeanings? scope parts).map arePartsNegative =
      allNegative (parts.map (partNegativity scope)) := by
  induction parts with
  | nil => rfl
  | cons p parts ih =>
    obtain ⟨o, e⟩ := p
    rw [List.map_cons, allNegative_cons, ← ih, partMeanings?, partNegativity, negativity]
    cases e.meaning? scope with
    | none => rfl
    | some m =>
      cases partMeanings? scope parts with
      | none => rfl
      | some ms =>
        have hoccur : (o.getD .should == .mustNot) = (o == some .mustNot) := by
          cases o with
          | none => rfl
          | some o => rfl
        change some (arePartsNegative ((o.getD .should, m) :: ms)) = _
        rw [arePartsNegative, hoccur]
        rfl

/-- **A clause is all negations if each of its parts is.** -/
theorem negativity_clause (parts : List (Option Occur × Expression)) :
    negativity scope (.clause parts) = allNegative (parts.map (partNegativity scope)) := by
  rw [← map_arePartsNegative, negativity, meaning?, Option.map_map]
  congr 1

theorem negativity_negated (e : Expression) :
    negativity scope e.negated = (negativity scope e).map fun _ => true := by
  rw [negated, negativity_clause, List.map_singleton, allNegative_singleton]
  rfl

theorem partNegativity_flattenPart (p : Option Occur × Expression) :
    partNegativity scope (flattenPart p) = partNegativity scope p := by
  unfold flattenPart
  split
  · next part =>
    rw [partNegativity.eq_def scope (none, _), negativity_clause, List.map_singleton,
      allNegative_singleton]
    cases partNegativity scope part <;> rfl
  · rfl

/-- Needless groups do not matter. -/
theorem negativity_flattened (e : Expression) :
    negativity scope e.flattened = negativity scope e := by
  cases e with
  | clause parts =>
    rw [flattened, negativity_clause, negativity_clause, List.map_map]
    congr 1
    exact List.map_congr_left fun p _ => partNegativity_flattenPart p
  | _ => rfl

/-! ### Parts with junctions -/

/-- Whether a part with its sign is a negation, if it has a meaning. -/
def joinedNegativity (scope : FieldScope) (p : JoinedPart) : Option Bool :=
  partNegativity scope (p.2.1, p.2.2)

theorem partNegativity_signedPart (before after : Option Junction) (sign : Option Occur)
    (e : Expression) : partNegativity scope (signedPart sign (defaultOccur before after) e) =
      partNegativity scope (sign, e) := by
  have hdefault : (defaultOccur before after == some .mustNot) = false := by
    rcases before with _ | _ | _ <;> rcases after with _ | _ | _ <;> rfl
  cases sign with
  | none =>
    change partNegativity scope (defaultOccur before after, e) = _
    rw [partNegativity, partNegativity, hdefault]
    rfl
  | some o =>
    cases o with
    | must => rfl
    | should => rfl
    | mustNot =>
      -- An alternative with a minus sign is a negation in a part that is none.
      unfold signedPart
      split
      · rw [partNegativity, partNegativity, negativity_negated, Option.map_map]
        rfl
      · rfl

theorem flatten_groups_cons (before : Option Junction) (sign : Option Occur) (e : Expression)
    (parts : List JoinedPart) : ∃ after : Option Junction,
      (groups ((before, sign, e) :: parts)).flatten =
        signedPart sign (defaultOccur before after) e :: (groups parts).flatten := by
  refine ⟨(parts.head?.map fun p => p.1).join, ?_⟩
  rw [groups]
  split
  · next h => rw [h]; rfl
  · rfl

/-- The groups hold the parts: what is the same of a part whatever sign the junctions give it, is
the same of the groups, part by part. -/
theorem map_flatten_groups {β : Type} {f : Option Occur × Expression → β} {g : JoinedPart → β}
    (h : ∀ before sign e after, f (signedPart sign (defaultOccur before after) e) =
      g (before, sign, e)) (parts : List JoinedPart) :
    (groups parts).flatten.map f = parts.map g := by
  induction parts with
  | nil => rfl
  | cons p parts ih =>
    obtain ⟨before, sign, e⟩ := p
    obtain ⟨after, hgroups⟩ := flatten_groups_cons before sign e parts
    rw [hgroups, List.map_cons, ih, h, List.map_cons]

theorem length_flatten_groups (parts : List JoinedPart) :
    (groups parts).flatten.length = parts.length := by
  have hmap := map_flatten_groups (f := fun _ => ()) (g := fun _ => ()) (fun _ _ _ _ => rfl) parts
  rw [← List.length_map (f := fun _ => ()), hmap, List.length_map]

theorem partNegativity_groupPart {g : List (Option Occur × Expression)} :
    partNegativity scope (groupPart g) = allNegative (g.map (partNegativity scope)) := by
  unfold groupPart
  split
  · rw [List.map_singleton, allNegative_singleton]
  · rw [partNegativity, negativity_clause]
    exact Option.map_id' ..

theorem negativity_groups (gs : List (List (Option Occur × Expression))) :
    negativity scope (.clause (gs.map groupPart)) =
      allNegative (gs.flatten.map (partNegativity scope)) := by
  rw [negativity_clause, List.map_map, List.map_flatten, allNegative_flatten, List.map_map]
  congr 1
  exact List.map_congr_left fun g _ => partNegativity_groupPart

/-- **Parts with junctions between them are all negations if each of them is.** -/
theorem negativity_joined (parts : List JoinedPart) :
    negativity scope (joined parts) = allNegative (parts.map (joinedNegativity scope)) := by
  have hparts : parts.map (joinedNegativity scope) =
      (groups parts).flatten.map (partNegativity scope) :=
    (map_flatten_groups (fun before sign e after =>
      partNegativity_signedPart before after sign e) parts).symm
  rw [hparts]
  unfold joined
  split
  · next e h =>
    rw [h, negativity_negated]
    change _ = allNegative [partNegativity scope (some .mustNot, e)]
    rw [allNegative_singleton]
    rfl
  · next o e hne h =>
    have hoccur : (o == some .mustNot) = false := beq_eq_false_iff_ne.mpr fun heq => by
      exact hne heq
    rw [h]
    change _ = allNegative [partNegativity scope (o, e)]
    rw [allNegative_singleton, partNegativity, hoccur]
    exact (Option.map_id' ..).symm
  · next g _ _ h =>
    rw [h, negativity_clause, List.flatten_singleton]
  · exact negativity_groups _

/-! ### Queries -/

/-- Several parts are a clause of some. -/
theorem exists_joined_eq_clause {parts : List JoinedPart} (h : 2 ≤ parts.length) :
    ∃ l, l ≠ [] ∧ joined parts = .clause l := by
  rw [← length_flatten_groups] at h
  unfold joined
  split
  · next heq => simp [heq] at h
  · next heq => simp [heq] at h
  · next g _ _ heq =>
    refine ⟨g, ?_, rfl⟩
    rintro rfl
    simp [heq] at h
  · refine ⟨_, ?_, rfl⟩
    intro hnil
    simp [List.map_eq_nil_iff.mp hnil] at h

/-- A clause of some parts asks for something just if it is not all negations. -/
theorem isPositive_clause_iff {l : List (Option Occur × Expression)} (hl : l ≠ []) :
    ((Expression.clause l).meaning? scope).any isPositive = true ↔
      negativity scope (.clause l) = some false := by
  obtain ⟨p, l, rfl⟩ := List.exists_cons_of_ne_nil hl
  rw [negativity, meaning?, partMeanings?]
  cases p.2.meaning? scope with
  | none => simp
  | some m =>
    cases partMeanings? scope l with
    | none => simp
    | some ms => simp [isPositive]

/-- **Several parts are a query just if they all have a meaning and one of them is no negation.** -/
theorem isPositive_joined_iff {parts : List JoinedPart} (h : 2 ≤ parts.length) :
    ((joined parts).flattened.meaning? scope).any isPositive = true ↔
      none ∉ parts.map (joinedNegativity scope) ∧
        some false ∈ parts.map (joinedNegativity scope) := by
  obtain ⟨l, hl, heq⟩ := exists_joined_eq_clause h
  have hflat : (joined parts).flattened = .clause (l.map flattenPart) := by rw [heq, flattened]
  rw [hflat, isPositive_clause_iff (by simpa using hl), ← hflat, negativity_flattened,
    negativity_joined, allNegative_eq_false_iff]

/-- What a text asks for, if it is read as an expression that asks for something. -/
theorem isSome_query?_iff {s : String} : (query? scope s).isSome = true ↔
    ∃ e, read? s = some e ∧ (e.meaning? scope).any isPositive = true := by
  rw [query?]
  cases read? s with
  | none => simp
  | some e =>
    cases hm : e.meaning? scope with
    | none => simp [hm]
    | some m => cases hpos : m.isPositive <;> simp [hm, hpos]

end Catalog.Expression
