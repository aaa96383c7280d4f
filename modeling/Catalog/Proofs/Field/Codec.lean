import Catalog.Field.Codec
import Catalog.Proofs.Calendar.Stamp
import Catalog.Proofs.Decimal.Text

/-!
# Reading payloads back

A payload that was written for a property of some kind is read for the same kind. Only two kinds
have texts that need not be read: a date of a year that does not have four digits, and a structured
value whose text is no JSON.

## Main definitions

* `GeoPoint.IsReadable`: both coordinates are found again in their texts
* `FieldValue.payload`: what is written of a value for its own kind

## Main results

* `GeoPoint.exists_ofText_text`, `GeoPoint.ofText_text`: the text of a point is the text of a point
* `FieldKind.type_of_encode`: what is written has the type that is read
* `FieldKind.decode_date`, `FieldKind.decode_date_of_signed`: which dates are read
-/

namespace Catalog

/-! ### Points -/

theorem toNat_of_isFormatChar {c : Char} (h : isFormatChar c = true) :
    45 ≤ c.toNat ∧ c.toNat ≤ 122 ∧ c.toNat ≠ 59 := by
  have hletter : c.isAlpha = true → 65 ≤ c.toNat ∧ c.toNat ≤ 122 := by
    change (decide (c.val ≥ 'A'.val ∧ c.val ≤ 'Z'.val) ||
      (decide (c.val ≥ 'a'.val) && decide (c.val ≤ 'z'.val))) = true → _
    simp only [Bool.or_eq_true, Bool.and_eq_true, decide_eq_true_eq, ge_iff_le,
      UInt32.le_iff_toNat_le]
    rintro (⟨hl, hg⟩ | ⟨hl, hg⟩) <;> exact ⟨le_trans (by decide) hl, le_trans hg (by decide)⟩
  simp only [isFormatChar, Bool.or_eq_true, beq_iff_eq] at h
  rcases h with ((h | rfl) | rfl) | h
  · have := isAsciiDigit_iff.mp h
    omega
  · decide
  · decide
  · have := hletter h
    omega

theorem isBlank_of_isFormatChar {c : Char} (h : isFormatChar c = true) : isBlank c = false := by
  obtain ⟨hl, hg, _⟩ := toNat_of_isFormatChar h
  exact isBlank_of_visible (by omega) (by omega)

theorem ne_semicolon_of_isFormatChar {c : Char} (h : isFormatChar c = true) :
    (c == ';') = false := by
  rw [beq_eq_false_iff_ne]
  rintro rfl
  exact absurd h (by decide)

theorem isFormatChar_of_mem_formatFloat {x : Float} {c : Char} (h : c ∈ (formatFloat x).toList) :
    isFormatChar c = true :=
  isFormatChar_of_mem_format h

namespace GeoPoint

/-- The two texts that a point was written with are the ones that are read. -/
theorem ofText_text_of_read {p : GeoPoint} {x y : Double}
    (hx : readDouble (formatFloat p.latitude) = .ok x)
    (hy : readDouble (formatFloat p.longitude) = .ok y) :
    ofText p.text = .ok ⟨x.toFloat, y.toFloat⟩ := by
  have hcut : pieces (· == ';') p.text.toList =
      [(formatFloat p.latitude).toList, (formatFloat p.longitude).toList] := by
    have htext : p.text.toList =
        (formatFloat p.latitude).toList ++ ';' :: (formatFloat p.longitude).toList := by
      rw [text, String.toList_append, String.toList_append, List.append_assoc]
      rfl
    rw [htext, pieces_append_cons _ rfl, pieces_of_forall]
    · exact fun c hc => ne_semicolon_of_isFormatChar (isFormatChar_of_mem_formatFloat hc)
    · exact fun c hc => ne_semicolon_of_isFormatChar (isFormatChar_of_mem_formatFloat hc)
  have htrim (x : Float) : String.ofList (trimChars (formatFloat x).toList) = formatFloat x := by
    rw [trimChars_of_forall fun c hc => isBlank_of_isFormatChar
      (isFormatChar_of_mem_formatFloat hc), String.ofList_toList]
  rw [ofText, hcut]
  simp only [htrim, hx, hy]

/-- **Every point is read from its text.** -/
theorem exists_ofText_text (p : GeoPoint) : ∃ q, ofText p.text = .ok q := by
  obtain ⟨x, hx⟩ := exists_readDouble_format (.ofFloat p.latitude)
  obtain ⟨y, hy⟩ := exists_readDouble_format (.ofFloat p.longitude)
  exact ⟨_, ofText_text_of_read hx hy⟩

/-- Whether both coordinates of a point are found again in their texts. -/
def IsReadable (p : GeoPoint) : Prop :=
  (∃ x, readDouble (formatFloat p.latitude) = .ok x ∧ x.toFloat = p.latitude) ∧
    ∃ y, readDouble (formatFloat p.longitude) = .ok y ∧ y.toFloat = p.longitude

/-- A point is found again in its text if its coordinates are. -/
theorem ofText_text {p : GeoPoint} (h : p.IsReadable) : ofText p.text = .ok p := by
  obtain ⟨⟨x, hx, hlat⟩, y, hy, hlon⟩ := h
  rw [ofText_text_of_read hx hy, hlat, hlon]

end GeoPoint

/-! ### Values -/

namespace FieldValue

/-- The payload of a value for properties of its own kind. -/
def payload : FieldValue → Payload
  | .id i => .text i.text
  | .text s => .text s
  | .int n => .signed n
  | .uint n => .unsigned n
  | .float x => .double x
  | .date m => .text m.stamp
  | .geo p => .text p.text
  | .structured t => .text t

/-- Every value is written for its own kind. -/
theorem encode_kind (v : FieldValue) : v.kind.encode v = .ok v.payload := by
  cases v <;> rfl

end FieldValue

/-- What is written for a kind has the type that is read for it. -/
theorem FieldKind.type_of_encode {k : FieldKind} {v : FieldValue} {p : Payload}
    (h : k.encode v = .ok p) : p.type = k.storeType := by
  cases k <;> cases v <;> cases h <;> rfl

theorem FieldKind.decode_date {m : Moment} (hy : m.HasPlainYear) (hn : m.nano < nanosPerSecond) :
    FieldKind.date.decode (FieldValue.date m).payload = .ok (.date m.truncate) := by
  rw [FieldValue.payload, FieldKind.decode, Moment.ofStamp?_stamp hy hn]

theorem FieldKind.decode_date_of_signed {m : Moment} (hy : ¬ m.HasPlainYear) :
    FieldKind.date.decode (FieldValue.date m).payload = .error (.invalidDate m.stamp) := by
  rw [FieldValue.payload, FieldKind.decode, Moment.ofStamp?_stamp_eq_none hy]

end Catalog
