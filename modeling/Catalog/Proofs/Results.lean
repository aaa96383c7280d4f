import Mathlib.Data.List.Forall2
import Mathlib.Data.List.Perm.Basic

/-!
# Lists of results

A function that may fail is applied to a list by applying it to the items in turn, up to the first
failure. If there is none, each item has its result; so the list may be put in another order or cut
into pieces, and the results go with it.

## Main results

* `mapM_eq_ok_iff`: the results of a list are those of its items
* `exists_mapM_of_perm`: a list in another order has the same results
* `exists_mapM_mapM`: results piece by piece
-/

namespace Catalog

variable {α β γ ε : Type} {f : α → Except ε β} {l l' : List α} {bs : List β}

theorem exists_of_isOk {r : Except ε α} (h : r.isOk = true) : ∃ a, r = .ok a := by
  cases r with
  | ok a => exact ⟨a, rfl⟩
  | error e => cases h

theorem exists_of_bind_eq_ok {r : Except ε α} {f : α → Except ε β} {b : β}
    (h : r.bind f = .ok b) : ∃ a, r = .ok a ∧ f a = .ok b := by
  cases r with
  | error e => cases h
  | ok a => exact ⟨a, rfl, h⟩

theorem bind_eq_ok_iff {r : Except ε α} {f : α → Except ε β} {b : β} :
    r.bind f = .ok b ↔ ∃ a, r = .ok a ∧ f a = .ok b := by
  refine ⟨exists_of_bind_eq_ok, ?_⟩
  rintro ⟨a, rfl, h⟩
  exact h

/-! ### Failures that do not occur -/

theorem map_ne_error {r : Except ε α} {e : ε} (g : α → β) (h : r ≠ .error e) :
    r.map g ≠ .error e := by
  cases r with
  | ok a => nofun
  | error e' => exact fun he => h (congrArg _ (Except.error.inj he))

theorem bind_ne_error {r : Except ε α} {g : α → Except ε β} {e : ε} (h : r ≠ .error e)
    (hg : ∀ a, r = .ok a → g a ≠ .error e) : r.bind g ≠ .error e := by
  cases r with
  | ok a => exact hg a rfl
  | error e' => exact fun he => h (congrArg _ (Except.error.inj he))

theorem mapError_ne_error {ε' : Type} {r : Except ε α} {g : ε → ε'} {e' : ε'}
    (h : ∀ e, r = .error e → g e ≠ e') : r.mapError g ≠ .error e' := by
  cases r with
  | ok a => nofun
  | error e => exact fun he => h e rfl (Except.error.inj he)

/-! ### Lists -/

/-- If each item is related to something, the list is. -/
theorem exists_forall₂ {r : α → β → Prop} (h : ∀ b ∈ bs, ∃ a, r a b) :
    ∃ as, List.Forall₂ r as bs := by
  induction bs with
  | nil => exact ⟨[], .nil⟩
  | cons b bs ih =>
    obtain ⟨⟨a, ha⟩, hrest⟩ := List.forall_mem_cons.mp h
    obtain ⟨as, has⟩ := ih hrest
    exact ⟨a :: as, .cons ha has⟩

/-- What is related to a list in order is in an order that follows from it. -/
theorem pairwise_of_forall₂ {r : α → β → Prop} {p : α → α → Prop} {q : β → β → Prop}
    {as : List α} (h : List.Forall₂ r as bs) (hbs : bs.Pairwise q)
    (hpq : ∀ a b a' b', r a b → r a' b' → q b b' → p a a') : as.Pairwise p := by
  have hlength := h.length_eq
  rw [List.pairwise_iff_getElem] at hbs ⊢
  intro i j hi hj hij
  exact hpq _ _ _ _ (h.get hi (hlength ▸ hi)) (h.get hj (hlength ▸ hj)) (hbs i j _ _ hij)

theorem mapM_cons_ok {a : α} (h : (a :: l).mapM f = .ok bs) :
    ∃ b rest, f a = .ok b ∧ l.mapM f = .ok rest ∧ bs = b :: rest := by
  rw [List.mapM_cons] at h
  cases hb : f a with
  | error e => rw [hb] at h; exact absurd h (by simp [bind, Except.bind])
  | ok b =>
    cases hrest : l.mapM f with
    | error e => rw [hb, hrest] at h; exact absurd h (by simp [bind, Except.bind])
    | ok rest =>
      rw [hb, hrest] at h
      cases h
      exact ⟨b, rest, rfl, rfl, rfl⟩

theorem mapM_cons_eq_ok_iff {a : α} :
    (a :: l).mapM f = .ok bs ↔ ∃ b rest, f a = .ok b ∧ l.mapM f = .ok rest ∧ bs = b :: rest := by
  refine ⟨mapM_cons_ok, ?_⟩
  rintro ⟨b, rest, hb, hrest, rfl⟩
  rw [List.mapM_cons, hb, hrest]
  rfl

/-- **The results of a list are those of its items.** -/
theorem mapM_eq_ok_iff : l.mapM f = .ok bs ↔ List.Forall₂ (fun a b => f a = .ok b) l bs := by
  induction l generalizing bs with
  | nil =>
    rw [List.forall₂_nil_left_iff]
    exact ⟨fun h => by cases h; rfl, fun h => by rw [h]; rfl⟩
  | cons a l ih =>
    rw [mapM_cons_eq_ok_iff, List.forall₂_cons_left_iff]
    simp only [ih]

theorem eq_nil_of_mapM_ok (h : l.mapM f = .ok []) : l = [] :=
  List.forall₂_nil_right_iff.mp (mapM_eq_ok_iff.mp h)

theorem exists_of_mem_of_mapM {a : α} (h : l.mapM f = .ok bs) (ha : a ∈ l) : ∃ b, f a = .ok b := by
  induction l generalizing bs with
  | nil => cases ha
  | cons c l ih =>
    obtain ⟨b, rest, hb, hrest, -⟩ := mapM_cons_ok h
    rcases List.mem_cons.mp ha with rfl | ha
    · exact ⟨b, hb⟩
    · exact ih hrest ha

/-- A result is that of an item. -/
theorem mem_iff_of_mapM (h : l.mapM f = .ok bs) (b : β) : b ∈ bs ↔ ∃ a ∈ l, f a = .ok b := by
  induction l generalizing bs with
  | nil =>
    cases h
    exact ⟨nofun, nofun⟩
  | cons c l ih =>
    obtain ⟨b', rest, hb', hrest, rfl⟩ := mapM_cons_ok h
    rw [List.mem_cons, ih hrest, List.exists_mem_cons_iff, hb', Except.ok.injEq]
    exact or_congr_left eq_comm

/-- If every item has a result, so has the list. -/
theorem exists_mapM_of_forall (h : ∀ a ∈ l, ∃ b, f a = .ok b) : ∃ bs, l.mapM f = .ok bs := by
  induction l with
  | nil => exact ⟨[], rfl⟩
  | cons a l ih =>
    obtain ⟨⟨b, hb⟩, hrest⟩ := List.forall_mem_cons.mp h
    obtain ⟨bs, hbs⟩ := ih hrest
    exact ⟨b :: bs, mapM_cons_eq_ok_iff.mpr ⟨b, bs, hb, hbs, rfl⟩⟩

/-- Two functions one after the other. -/
theorem mapM_of_mapM {g : β → Except ε γ} (h : l.mapM f = .ok bs) :
    bs.mapM g = l.mapM fun a => f a >>= g := by
  induction l generalizing bs with
  | nil =>
    cases h
    rfl
  | cons a l ih =>
    obtain ⟨b, rest, hb, hrest, rfl⟩ := mapM_cons_ok h
    rw [List.mapM_cons, List.mapM_cons, hb, ih hrest]
    rfl

/-- The failure of a list is that of an item. -/
theorem exists_of_mapM_error {e : ε} (h : l.mapM f = .error e) : ∃ a ∈ l, f a = .error e := by
  induction l with
  | nil => cases h
  | cons a l ih =>
    rw [List.exists_mem_cons_iff]
    cases ha : f a with
    | error e' =>
      rw [List.mapM_cons, ha] at h
      cases h
      exact .inl rfl
    | ok b =>
      cases hrest : l.mapM f with
      | error e' =>
        rw [List.mapM_cons, ha, hrest] at h
        cases h
        exact .inr (ih hrest)
      | ok bs =>
        rw [List.mapM_cons, ha, hrest] at h
        cases h

theorem mapM_ne_error {e : ε} (h : ∀ a ∈ l, f a ≠ .error e) : l.mapM f ≠ .error e := by
  intro he
  obtain ⟨a, ha, hfa⟩ := exists_of_mapM_error he
  exact h a ha hfa

/-- **A list in another order has the same results**, in another order. -/
theorem exists_mapM_of_perm (hperm : l'.Perm l) (h : l.mapM f = .ok bs) :
    ∃ bs', l'.mapM f = .ok bs' ∧ bs'.Perm bs := by
  obtain ⟨bs', hbs', hperm'⟩ := List.perm_comp_forall₂ hperm (mapM_eq_ok_iff.mp h)
  exact ⟨bs', mapM_eq_ok_iff.mpr hbs', hperm'⟩

theorem mapM_append_ok (h : (l ++ l').mapM f = .ok bs) :
    ∃ as cs, l.mapM f = .ok as ∧ l'.mapM f = .ok cs ∧ bs = as ++ cs := by
  induction l generalizing bs with
  | nil => exact ⟨[], bs, rfl, h, rfl⟩
  | cons a l ih =>
    obtain ⟨b, rest, hb, hrest, rfl⟩ := mapM_cons_ok h
    obtain ⟨as, cs, has, hcs, rfl⟩ := ih hrest
    exact ⟨b :: as, cs, mapM_cons_eq_ok_iff.mpr ⟨b, as, hb, has, rfl⟩, hcs, rfl⟩

/-- **Results piece by piece**: they are the pieces of the results. -/
theorem exists_mapM_mapM {pieces : List γ} {g : γ → List α}
    (h : (pieces.flatMap g).mapM f = .ok bs) :
    ∃ parts, pieces.mapM (fun c => (g c).mapM f) = .ok parts ∧ parts.flatten = bs := by
  induction pieces generalizing bs with
  | nil =>
    cases h
    exact ⟨[], rfl, rfl⟩
  | cons c pieces ih =>
    rw [List.flatMap_cons] at h
    obtain ⟨as, cs, has, hcs, rfl⟩ := mapM_append_ok h
    obtain ⟨parts, hparts, rfl⟩ := ih hcs
    exact ⟨as :: parts, mapM_cons_eq_ok_iff.mpr ⟨as, parts, has, hparts, rfl⟩, rfl⟩

end Catalog
