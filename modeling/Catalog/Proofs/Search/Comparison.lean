import Catalog.Proofs.Search.Ordering

/-!
# A comparison to sort by

Sorting asks of a comparison that any two elements can be compared, that the answer turns round if
they change places, and that what comes before a second comes before a third that the second comes
before. The comparison of candidates is such a one as long as all of them have a distance or none
has, and so it is for what one search finds. Were there a distance for some only, those without one
would be tied with all others, and the others would still not be tied among themselves.

## Main definitions

* `ComparesTotally`: the elements of a list are in a total preorder

## Main results

* `comparesTotally_compareCandidates`: candidates can be sorted by any keys, in one way only
-/

namespace Catalog

/-- The elements of a list are in a total preorder. -/
structure ComparesTotally {α : Type} (cmp : α → α → Ordering) (l : List α) : Prop where
  self : ∀ a ∈ l, cmp a a = .eq
  swap : ∀ a ∈ l, ∀ b ∈ l, cmp b a = (cmp a b).swap
  total : ∀ a ∈ l, ∀ b ∈ l, (cmp a b).isLE = true ∨ (cmp b a).isLE = true
  trans : ∀ a ∈ l, ∀ b ∈ l, ∀ c ∈ l,
    (cmp a b).isLE = true → (cmp b c).isLE = true → (cmp a c).isLE = true

/-- A comparison need be one of all elements only where they are compared. -/
theorem ComparesTotally.of_transCmp {α : Type} {cmp cmp' : α → α → Ordering} [Std.TransCmp cmp']
    {l : List α} (h : ∀ a ∈ l, ∀ b ∈ l, cmp a b = cmp' a b) : ComparesTotally cmp l where
  self a ha := by
    rw [h a ha a ha]
    exact Std.ReflCmp.compare_self
  swap a ha b hb := by
    rw [h a ha b hb, h b hb a ha]
    exact Std.OrientedCmp.eq_swap
  total a ha b hb := by
    have hswap : cmp' b a = (cmp' a b).swap := Std.OrientedCmp.eq_swap
    rw [h a ha b hb, h b hb a ha, hswap]
    cases cmp' a b <;> decide
  trans a ha b hb c hc hab hbc := by
    rw [h a ha b hb] at hab
    rw [h b hb c hc] at hbc
    rw [h a ha c hc]
    exact Std.TransCmp.isLE_trans hab hbc

/-- **Candidates can be sorted by any keys, in one way only.** Whatever values they have or lack,
candidates that all have a distance, or all have none, are in a total preorder by the keys and then
by distance, so that there is just one list of them in order; and what one search finds is of this
kind. -/
theorem comparesTotally_compareCandidates (keys : List SortKey) :
    (∀ cs : List Candidate, HaveDistancesAlike cs →
      ComparesTotally (compareCandidates keys) cs ∧
      ∀ l, IsStableSort (fun a b => compareCandidates keys a b = .lt) cs l ↔
        l = sortCandidates keys cs) ∧
    ∀ (s : Snapshot) (q : Query) (spatial : Option SpatialFilter),
      HaveDistancesAlike (inArea spatial (s.ranking q)) := by
  refine ⟨fun cs hcs => ⟨?_, fun l => ?_⟩, fun s q spatial =>
    Snapshot.haveDistancesAlike_inArea spatial (s.ranking q)⟩
  · exact .of_transCmp fun a ha b hb => compareCandidates_eq_compareAll (hcs a ha b hb)
  · have hprecedes : (fun a b => compareCandidates keys a b = .lt) = Candidate.Precedes keys :=
      funext₂ fun a b => propext compareCandidates_eq_lt_iff
    rw [hprecedes]
    exact isStableSort_iff_eq_sortCandidates hcs

/-- Four candidates by a number, the greatest first: one has none and comes last, and of two with
the same number the nearer one comes first. -/
theorem comparesTotally_compareCandidates_stock :
    let stock (n : Int64) : Document := ⟨[("stock", .signed n)]⟩
    let keys : List SortKey := [⟨"stock", .int, true⟩]
    let cs : List Candidate := [⟨⟨[]⟩, some 1⟩, ⟨stock 3, some 2⟩, ⟨stock 7, some 9⟩, ⟨stock 3, some 1⟩]
    HaveDistancesAlike cs ∧ ComparesTotally (compareCandidates keys) cs ∧
      ∃ l, IsStableSort (fun a b => compareCandidates keys a b = .lt) cs l ∧
        l.map (·.document) = [stock 7, stock 3, stock 3, ⟨[]⟩] ∧
        l.map Candidate.position? = [some 9, some 1, some 2, some 1].map
          (Option.map fun km => (Double.ofFloat km).order) := by
  intro stock keys cs
  have hcs : HaveDistancesAlike cs := by
    have hsome : ∀ c ∈ cs, c.distanceKm.isSome = true := by decide +kernel
    exact fun a ha b hb => (hsome a ha).trans (hsome b hb).symm
  obtain ⟨htotal, hsorted⟩ := (comparesTotally_compareCandidates keys).1 cs hcs
  exact ⟨hcs, htotal, _, (hsorted _).mpr rfl, by decide +kernel, by decide +kernel⟩

/-- Ties with a candidate that has no distance do not carry over. -/
example : let c (km : Option Float) : Candidate := ⟨⟨[]⟩, km⟩
    compareCandidates [] (c (some 2)) (c none) = .eq ∧
      compareCandidates [] (c none) (c (some 1)) = .eq ∧
      compareCandidates [] (c (some 2)) (c (some 1)) = .gt := by
  decide +kernel

end Catalog
