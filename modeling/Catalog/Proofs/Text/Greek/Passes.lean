import Catalog.Proofs.Text.Greek.Fuse
import Mathlib.Logic.Function.Iterate

/-!
# The passes stop by themselves

A text is folded by passes, repeated until one of them changes nothing, and at most so many times.
The bound is never what ends them. After the first pass a text is plain, a second one settles it,
and every further pass that changes a settled text shortens it; so there are at most two passes
more than the first pass has left characters, and that is at most twice the length of the text. A
folded text is therefore one that a pass leaves as it is, and folding it again changes nothing.

## Main definitions

* `Greek.StopsAt`: the passes over a text, ended by the first that changes nothing

## Main results

* `Greek.StopsAt.settle_eq`: a bound above the number of passes does not show
* `Greek.exists_stopsAt_of_isPlain`: how many passes a plain text takes
* `Greek.normalizeText_stops`: folding ends at a text that a pass does not change
-/

namespace Catalog.Greek

/-- The first `k` passes each change the text, and the one behind them changes nothing. -/
structure StopsAt (step : List Char → List Char) (k : Nat) (s : List Char) : Prop where
  /-- Each of the passes changes what it is given. -/
  moves : ∀ j < k, step^[j + 1] s ≠ step^[j] s
  /-- One more pass changes nothing. -/
  rests : step^[k + 1] s = step^[k] s

namespace StopsAt

variable {step : List Char → List Char} {k n : Nat} {s : List Char}

theorem zero (h : step s = s) : StopsAt step 0 s :=
  ⟨fun _ hj => absurd hj (Nat.not_lt_zero _), h⟩

theorem succ (hne : step s ≠ s) (h : StopsAt step k (step s)) : StopsAt step (k + 1) s := by
  refine ⟨fun j hj => ?_, h.rests⟩
  cases j with
  | zero => exact hne
  | succ j => exact h.moves j (Nat.lt_of_succ_lt_succ hj)

theorem step_eq (h : StopsAt step k s) : step (step^[k] s) = step^[k] s := by
  rw [← Function.iterate_succ_apply' step]
  exact h.rests

theorem tail (h : StopsAt step (k + 1) s) : StopsAt step k (step s) :=
  ⟨fun j hj => h.moves (j + 1) (Nat.succ_lt_succ hj), h.rests⟩

/-- A repetition that is allowed more passes than the text takes ends with the last of them. -/
theorem settle_eq (h : StopsAt step k s) (hk : k < n) : settle step n s = step^[k] s := by
  induction k generalizing n s with
  | zero =>
    obtain ⟨n, rfl⟩ := Nat.exists_eq_add_one_of_ne_zero (Nat.ne_of_gt hk)
    have hrests : step s = s := h.rests
    simp only [settle, hrests, if_true, Function.iterate_zero_apply]
  | succ k ih =>
    obtain ⟨n, rfl⟩ := Nat.exists_eq_add_one_of_ne_zero (Nat.ne_zero_of_lt hk)
    have hne : step s ≠ s := h.moves 0 (Nat.succ_pos k)
    simp only [settle, if_neg hne]
    exact ih h.tail (Nat.lt_of_succ_lt_succ hk)

end StopsAt

/-- A settled text takes no more passes than it has characters. -/
theorem exists_stopsAt_of_isSettled {s : List Char} (hs : ∀ c ∈ s, IsSettled c) :
    ∃ k ≤ s.length, StopsAt foldOnce k s := by
  have hplain : ∀ c ∈ s, IsPlain c := fun c hc => (hs c hc).1
  have hpass : foldOnce s = foldSounds s := foldOnce_of_isPlain hplain
  rcases foldSounds_eq_or_length_lt hs with ⟨hfold, -⟩ | hlt
  · exact ⟨0, Nat.zero_le _, .zero (hpass.trans hfold)⟩
  · obtain ⟨k, hk, h⟩ := exists_stopsAt_of_isSettled (isSettled_of_mem_foldSounds hplain)
    have hne : foldOnce s ≠ s := fun heq => by
      rw [← hpass, heq] at hlt
      exact lt_irrefl _ hlt
    exact ⟨k + 1, by omega, .succ hne (hpass ▸ h)⟩
termination_by s.length

/-- A plain text takes at most one pass more: the one that settles it. -/
theorem exists_stopsAt_of_isPlain {s : List Char} (hs : ∀ c ∈ s, IsPlain c) :
    ∃ k ≤ s.length + 1, StopsAt foldOnce k s := by
  have hpass : foldOnce s = foldSounds s := foldOnce_of_isPlain hs
  have hlength := length_foldSounds_le s
  obtain ⟨k, hk, h⟩ := exists_stopsAt_of_isSettled (isSettled_of_mem_foldSounds hs)
  by_cases heq : foldOnce s = s
  · exact ⟨0, Nat.zero_le _, .zero heq⟩
  · exact ⟨k + 1, by omega, .succ heq (hpass ▸ h)⟩

/-- The passes that follow the first one stay below their bound. -/
theorem exists_stopsAt_foldOnce (s : List Char) :
    ∃ k < passBound s.length, StopsAt foldOnce k (foldOnce s) := by
  have hlength := length_foldOnce_le s
  obtain ⟨k, hk, h⟩ := exists_stopsAt_of_isPlain (fun c hc => isPlain_of_mem_foldOnce (s := s) hc)
  exact ⟨k, by unfold passBound; omega, h⟩

theorem exists_stopsAt_normalize {s : List Char} (hs : needsFolding s = true) :
    ∃ k < passBound s.length, StopsAt foldOnce k (foldOnce s) ∧
      normalize s = foldOnce^[k] (foldOnce s) := by
  obtain ⟨k, hk, h⟩ := exists_stopsAt_foldOnce s
  refine ⟨k, hk, h, ?_⟩
  rw [normalize, if_pos hs]
  exact h.settle_eq hk

/-- A pass leaves a folded text as it is. -/
theorem foldOnce_normalize {s : List Char} (hs : needsFolding s = true) :
    foldOnce (normalize s) = normalize s := by
  obtain ⟨k, -, h, heq⟩ := exists_stopsAt_normalize hs
  rw [heq]
  exact h.step_eq

theorem normalize_of_foldOnce {s : List Char} (h : foldOnce s = s) : normalize s = s := by
  unfold normalize
  split
  · rw [h]
    exact (StopsAt.zero h).settle_eq (by unfold passBound; omega)
  · rfl

theorem normalize_normalize (s : List Char) : normalize (normalize s) = normalize s := by
  by_cases hs : needsFolding s = true
  · exact normalize_of_foldOnce (foldOnce_normalize hs)
  · have heq : normalize s = s := if_neg hs
    rw [heq, heq]

/-- **Folding stops because a pass changes nothing, never because the passes run out**: a text that
calls for folding takes fewer passes than it is allowed, all but the one that ends them change it,
and what they end with is left alone by a further pass. So folding a folded text does nothing,
whatever the text. -/
theorem normalizeText_stops (s : String) :
    (needsFolding s.toList = true →
      (∃ k < passBound s.length, StopsAt foldOnce k (foldOnce s.toList) ∧
        (normalizeText s).toList = foldOnce^[k] (foldOnce s.toList)) ∧
      foldOnce (normalizeText s).toList = (normalizeText s).toList) ∧
    normalizeText (normalizeText s) = normalizeText s := by
  have htext : (normalizeText s).toList = normalize s.toList := String.toList_ofList
  rw [htext, ← String.length_toList]
  refine ⟨fun hs => ⟨exists_stopsAt_normalize hs, foldOnce_normalize hs⟩, ?_⟩
  rw [normalizeText, htext, normalize_normalize, normalizeText]

/-- The first pass over `Εη` makes an iota of the eta, and only the next one fuses the two. -/
theorem normalizeText_stops_pair :
    needsFolding "Εη".toList = true ∧
      (∃ k < passBound "Εη".length, StopsAt foldOnce k (foldOnce "Εη".toList) ∧
        (normalizeText "Εη").toList = foldOnce^[k] (foldOnce "Εη".toList)) ∧
      foldOnce (normalizeText "Εη").toList = (normalizeText "Εη").toList :=
  have hneeds : needsFolding "Εη".toList = true := by decide
  ⟨hneeds, (normalizeText_stops "Εη").1 hneeds⟩

end Catalog.Greek
