import Catalog.Proofs.Decimal.Digits
import Catalog.Proofs.Results

/-!
# Characters of numbers

Whatever a reader of numbers accepts is made of digits and letters, signs and points. A text with
any other character in it, such as the slash of a path, is no number of any type.

## Main definitions

* `isNumeralChar`: the characters that a number may be made of

## Main results

* `isNumeralChar_of_readInt64`, `isNumeralChar_of_readDouble`: numbers are made of them
-/

namespace Catalog

/-- Whether a number may have a character in its text. -/
def isNumeralChar (c : Char) : Bool :=
  c.isAlphanum || c == '.' || c == '+' || c == '-'

theorem isNumeralChar_of_isAlphanum {c : Char} (h : c.isAlphanum = true) :
    isNumeralChar c = true := by
  simp [isNumeralChar, h]

theorem isNumeralChar_of_isAsciiDigit {c : Char} (h : isAsciiDigit c = true) :
    isNumeralChar c = true := by
  have hdigit : c.isDigit = true := h
  exact isNumeralChar_of_isAlphanum (Bool.or_eq_true_iff.mpr (.inr hdigit))

theorem isAlphanum_of_toLower {c : Char} (h : c.toLower.isAlphanum = true) :
    c.isAlphanum = true := by
  unfold Char.toLower at h
  split at h
  case isTrue hupper =>
    have hletter : c.isAlpha = true := Bool.or_eq_true_iff.mpr (.inl (decide_eq_true hupper))
    exact Bool.or_eq_true_iff.mpr (.inl hletter)
  case isFalse => exact h

variable {s : List Char} {t : String}

theorem forall_of_length_takeWhile {p : Char → Bool}
    (h : ¬ (s.takeWhile p).length < s.length) : ∀ c ∈ s, p c = true :=
  List.takeWhile_eq_self_iff.mp
    ((List.takeWhile_prefix p).eq_of_length_le (Nat.le_of_not_lt h))

theorem isNumeralChar_of_readBounded {least greatest n : Int}
    (h : readBounded least greatest t = .ok n) : ∀ c ∈ t.toList, isNumeralChar c = true := by
  have hdigits {ds : List Char} {m : Int} (h : (if greatest < m then .error .tooLarge
      else if m < least then .error .tooSmall
      else if (ds.takeWhile isAsciiDigit).length < ds.length then .error .invalidDigit
      else .ok m : Except IntError Int) = .ok n) : ∀ c ∈ ds, isNumeralChar c = true := by
    split_ifs at h with _ _ hrun
    exact fun c hc => isNumeralChar_of_isAsciiDigit (forall_of_length_takeWhile hrun c hc)
  simp only [readBounded] at h
  split at h
  · cases h
  · split at h
    case h_1 hs =>
      rw [hs, List.forall_mem_cons]
      exact ⟨rfl, hdigits h⟩
    case h_2 hs =>
      rw [hs, List.forall_mem_cons]
      refine ⟨rfl, ?_⟩
      split at h
      · exact hdigits h
      · exact (List.forall_mem_cons.mp (hdigits h)).2
    case h_3 => exact hdigits h

/-- An integer is made of digits and a sign. -/
theorem isNumeralChar_of_readInt64 {n : Int64} (h : readInt64 t = .ok n) :
    ∀ c ∈ t.toList, isNumeralChar c = true := by
  rw [readInt64] at h
  cases hread : readBounded (-2 ^ 63) (2 ^ 63 - 1) t with
  | error e =>
    rw [hread] at h
    cases h
  | ok m => exact isNumeralChar_of_readBounded hread

theorem isNumeralChar_of_readExponent {n : Int} (h : readExponent s = some n) :
    ∀ c ∈ s, isNumeralChar c = true := by
  have hdigits {ds : List Char} {m : Int} (h : (if ds.isEmpty || !ds.all isAsciiDigit then none
      else some m : Option Int) = some n) : ∀ c ∈ ds, isNumeralChar c = true := by
    split_ifs at h with hall
    rw [Bool.or_eq_true, not_or, Bool.not_eq_true', Bool.not_eq_false, List.all_eq_true] at hall
    exact fun c hc => isNumeralChar_of_isAsciiDigit (hall.2 c hc)
  cases s with
  | nil => nofun
  | cons e r =>
    simp only [readExponent] at h
    split at h
    case isFalse => cases h
    case isTrue he =>
      have hletter : isNumeralChar e = true := by
        rcases Bool.or_eq_true_iff.mp he with he | he <;> rw [eq_of_beq he] <;> rfl
      refine List.forall_mem_cons.mpr ⟨hletter, ?_⟩
      split at h
      case h_1 => exact List.forall_mem_cons.mpr ⟨rfl, hdigits h⟩
      case h_2 => exact List.forall_mem_cons.mpr ⟨rfl, hdigits h⟩
      case h_3 => exact hdigits h

theorem isNumeralChar_of_readUnsigned {d : Decimal} (h : readUnsigned s = some d) :
    ∀ c ∈ s, isNumeralChar c = true := by
  have hname {word : List Char} (hword : word.all Char.isAlphanum = true)
      (hs : s.map Char.toLower = word) : ∀ c ∈ s, isNumeralChar c = true := by
    intro c hc
    subst hs
    exact isNumeralChar_of_isAlphanum (isAlphanum_of_toLower
      (List.all_eq_true.mp hword _ (List.mem_map_of_mem hc)))
  have hwhole {l : List Char} : ∀ c ∈ l.takeWhile isAsciiDigit, isNumeralChar c = true :=
    fun c hc => isNumeralChar_of_isAsciiDigit (List.mem_takeWhile_imp hc)
  simp only [readUnsigned] at h
  split at h
  case isTrue hinf =>
    rcases Bool.or_eq_true_iff.mp hinf with hinf | hinf
    · exact hname (by decide) (of_decide_eq_true hinf)
    · exact hname (by decide) (of_decide_eq_true hinf)
  split at h
  case isTrue hnan => exact hname (by decide) hnan
  rw [← List.prefix_iff_eq_append.mp (List.takeWhile_prefix isAsciiDigit (l := s)),
    List.forall_mem_append]
  refine ⟨hwhole, ?_⟩
  split at h
  case h_1 r hr =>
    split_ifs at h
    obtain ⟨e, he, -⟩ := Option.map_eq_some_iff.mp h
    rw [hr, List.forall_mem_cons, ← List.takeWhile_append_dropWhile (p := isAsciiDigit) (l := r),
      List.forall_mem_append]
    exact ⟨rfl, hwhole, isNumeralChar_of_readExponent he⟩
  case h_2 =>
    split_ifs at h
    obtain ⟨e, he, -⟩ := Option.map_eq_some_iff.mp h
    exact isNumeralChar_of_readExponent he

/-- A decimal is made of digits with a sign, a point and an exponent, or is a name. -/
theorem isNumeralChar_of_readDouble {x : Double} (h : readDouble t = .ok x) :
    ∀ c ∈ t.toList, isNumeralChar c = true := by
  obtain ⟨p, hp, -⟩ := exists_of_bind_eq_ok h
  simp only [readDecimal] at hp
  split at hp
  case isTrue => cases hp
  split at hp
  case h_2 => cases hp
  case h_1 d hd =>
    split at hd
    case h_1 r hr => exact hr ▸ List.forall_mem_cons.mpr ⟨rfl, isNumeralChar_of_readUnsigned hd⟩
    case h_2 r hr => exact hr ▸ List.forall_mem_cons.mpr ⟨rfl, isNumeralChar_of_readUnsigned hd⟩
    case h_3 => exact isNumeralChar_of_readUnsigned hd

end Catalog
