import Catalog.Field.Codec
import Catalog.Proofs.Calendar.Reading

/-!
# Dates and their texts

A date is kept as a text of fourteen digits. Such a text is decoded if it denotes a moment, and is
then encoded again as it was; but there are other texts that spell a moment, with blanks or with
thirteen digits, and these are decoded too, although they are the text of no date. Whatever spells
no moment is refused.

## Main definitions

* `IsLooseDate`: a moment that is spelled otherwise than in fourteen digits
* `DecodesDate`: a text that is decoded only as the text that its date is kept as

## Main results

* `FieldKind.decodesDate_iff`: the texts that are decoded as they are kept
-/

namespace Catalog

/-- A text that spells a date and a time of day. -/
def SpellsMoment (s : String) : Prop :=
  ∃ year month day hour minute second, SpellsDate s year month day hour minute second ∧
    IsDateTime year month day hour minute second

/-- A moment that is spelled otherwise than in fourteen digits. -/
def IsLooseDate (s : String) : Prop :=
  SpellsMoment s ∧ ¬ IsDateText s

/-- A text that is decoded only if it is the text that a date is kept as, and is refused for what it
is otherwise. -/
structure DecodesDate (s : String) : Prop where
  of_ok : ∀ v, FieldKind.date.decode (.text s) = .ok v →
    IsDateText s ∧ DenotesMoment s ∧ FieldKind.date.encode v = .ok (.text s)
  of_denotes : IsDateText s → DenotesMoment s →
    ∃ m, FieldKind.date.decode (.text s) = .ok (.date m)
  of_not_denotes : ¬ (IsDateText s ∧ DenotesMoment s) →
    FieldKind.date.decode (.text s) = .error (.invalidDate s)

variable {s : String}

theorem spellsMoment_iff : SpellsMoment s ↔ ∃ m, Moment.ofStamp? s = some m := by
  rw [← Option.isSome_iff_exists, Moment.isSome_ofStamp?_iff, SpellsMoment]

theorem IsDateText.denotesMoment_iff (hs : IsDateText s) :
    DenotesMoment s ↔ ∃ m, Moment.ofStamp? s = some m := by
  rw [← Option.isSome_iff_exists, Moment.isSome_ofStamp?_iff_columns hs]

/-- Such a moment has a blank in it, or thirteen digits. -/
theorem IsLooseDate.blank_or_short (h : IsLooseDate s) : (∃ c ∈ s.toList, isBlank c = true) ∨
    s.toList.length = 13 ∧ ∀ c ∈ s.toList, isAsciiDigit c = true := by
  obtain ⟨⟨year, month, day, hour, minute, second, hspelled, -⟩, hloose⟩ := h
  refine or_iff_not_imp_left.mpr fun hblank => ?_
  have hs : ∀ c ∈ s.toList, isBlank c = false := fun c hc =>
    Bool.eq_false_iff.mpr fun h => hblank ⟨c, hc, h⟩
  exact (hspelled.isDateText hs).resolve_left hloose

namespace FieldKind

theorem decode_date_of_some {m : Moment} (h : Moment.ofStamp? s = some m) :
    FieldKind.date.decode (.text s) = .ok (.date m) := by
  rw [decode, h]

theorem decode_date_of_none (h : Moment.ofStamp? s = none) :
    FieldKind.date.decode (.text s) = .error (.invalidDate s) := by
  rw [decode, h]

theorem encode_date_eq_iff (m : Moment) :
    FieldKind.date.encode (.date m) = .ok (.text s) ↔ m.stamp = s := by
  rw [encode, Except.ok.injEq, Payload.text.injEq]

theorem not_isLooseDate_of_decodesDate (h : DecodesDate s) : ¬ IsLooseDate s := by
  rintro ⟨hmoment, hloose⟩
  obtain ⟨m, hm⟩ := spellsMoment_iff.mp hmoment
  exact hloose (h.of_ok _ (decode_date_of_some hm)).1

theorem decodesDate_of_not_isLooseDate (h : ¬ IsLooseDate s) : DecodesDate s := by
  have htext {m : Moment} (hm : Moment.ofStamp? s = some m) : IsDateText s :=
    Classical.not_not.mp fun hloose => h ⟨spellsMoment_iff.mpr ⟨m, hm⟩, hloose⟩
  constructor
  case of_ok =>
    intro v hv
    cases hm : Moment.ofStamp? s with
    | none =>
      rw [decode_date_of_none hm] at hv
      cases hv
    | some m =>
      rw [decode_date_of_some hm] at hv
      cases hv
      have hs := htext hm
      exact ⟨hs, hs.denotesMoment_iff.mpr ⟨m, hm⟩,
        (encode_date_eq_iff m).mpr ((Moment.stamp_eq_iff hm).mpr hs)⟩
  case of_denotes =>
    intro hs hmoment
    obtain ⟨m, hm⟩ := hs.denotesMoment_iff.mp hmoment
    exact ⟨m, decode_date_of_some hm⟩
  case of_not_denotes =>
    intro hnot
    refine decode_date_of_none (Option.eq_none_iff_forall_ne_some.mpr fun m hm => hnot ?_)
    exact ⟨htext hm, (htext hm).denotesMoment_iff.mpr ⟨m, hm⟩⟩

/-- **A text is decoded as it is kept** unless it spells a moment in another way, and then there is
a blank in it, or it has thirteen digits. -/
theorem decodesDate_iff (s : String) :
    (DecodesDate s ↔ ¬ IsLooseDate s) ∧
      (IsLooseDate s → (∃ c ∈ s.toList, isBlank c = true) ∨
        s.toList.length = 13 ∧ ∀ c ∈ s.toList, isAsciiDigit c = true) :=
  ⟨⟨not_isLooseDate_of_decodesDate, decodesDate_of_not_isLooseDate⟩, IsLooseDate.blank_or_short⟩

/-- Thirteen digits are decoded as the date whose text has a zero in front of the last of them. -/
theorem not_decodesDate_thirteen : ¬ DecodesDate "2024030907050" := by
  intro h
  obtain ⟨m, hm⟩ : ∃ m, FieldKind.date.decode (.text "2024030907050") = .ok (.date m) := by
    cases hm : Moment.ofStamp? "2024030907050" with
    | none => exact absurd hm (by decide +kernel)
    | some m => exact ⟨m, decode_date_of_some hm⟩
  exact absurd (h.of_ok _ hm).1 (by decide)

end FieldKind

end Catalog
