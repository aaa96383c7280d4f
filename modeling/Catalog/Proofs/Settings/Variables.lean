import Catalog.Proofs.Decimal.Numeral
import Catalog.Proofs.Settings.Load
import Catalog.Proofs.Text.LetterCase

/-!
# Settings that are texts

A file says of what type a value is, a variable does not. So the text of a variable is taken for a
truth value, an integer or a decimal wherever it reads as one, and a setting that is a text is then
made of that value: it is loaded as it was written only if this is how the value is written. The same
text in a file is loaded as it is.

## Main definitions

* `IsRespelled`: a text that stands for a value which is written otherwise
* `IsVariableOf`: the variables that are about a setting
* `Surroundings.Gives`: the text that the variables have for a setting

## Main results

* `SettingValue.text?_ofText_eq_iff`: the texts that stay as they are
* `Settings.get_eq_text_of_load`: the settings that are loaded as they are written
-/

namespace Catalog

/-! ### Texts of unknown type -/

/-- A text that reads as a truth value. -/
def IsSwitch (t : String) : Prop :=
  ∃ b : Bool, lowercaseText t = toString b

/-- A text that reads as an integer. -/
def IsInteger (t : String) : Prop :=
  ∃ n, readInt64 t = .ok n

/-- A text that reads as a truth value, an integer or a decimal, the first of these that it does,
but is not how that one is written. -/
inductive IsRespelled (t : String) : Prop where
  | switch (b : Bool) (h : lowercaseText t = toString b) (hne : t ≠ toString b)
  | integer (n : Int64) (hswitch : ¬ IsSwitch t) (h : readInt64 t = .ok n)
      (hne : t ≠ toString n.toInt)
  | decimal (x : Double) (hswitch : ¬ IsSwitch t) (hinteger : ¬ IsInteger t)
      (h : readDouble t = .ok x) (hne : t ≠ formatFloat x.toFloat)

section Respelled

variable {t : String}

theorem isRespelled_iff_of_switch {b : Bool} (hb : lowercaseText t = toString b) :
    IsRespelled t ↔ t ≠ toString b := by
  refine ⟨?_, .switch b hb⟩
  rintro (⟨b', hb', hne⟩ | ⟨-, hswitch, -, -⟩ | ⟨-, hswitch, -, -, -⟩)
  · rwa [← hb, hb']
  · exact absurd ⟨b, hb⟩ hswitch
  · exact absurd ⟨b, hb⟩ hswitch

theorem isRespelled_iff_of_integer {n : Int64} (hswitch : ¬ IsSwitch t) (hn : readInt64 t = .ok n) :
    IsRespelled t ↔ t ≠ toString n.toInt := by
  refine ⟨?_, .integer n hswitch hn⟩
  rintro (⟨b, hb, -⟩ | ⟨n', -, hn', hne⟩ | ⟨-, -, hinteger, -, -⟩)
  · exact absurd ⟨b, hb⟩ hswitch
  · cases hn.symm.trans hn'
    exact hne
  · exact absurd ⟨n, hn⟩ hinteger

theorem isRespelled_iff_of_decimal (hswitch : ¬ IsSwitch t) (hinteger : ¬ IsInteger t) :
    IsRespelled t ↔ ∃ x, readDouble t = .ok x ∧ t ≠ formatFloat x.toFloat := by
  constructor
  · rintro (⟨b, hb, -⟩ | ⟨n, -, hn, -⟩ | ⟨x, -, -, hx, hne⟩)
    · exact absurd ⟨b, hb⟩ hswitch
    · exact absurd ⟨n, hn⟩ hinteger
    · exact ⟨x, hx, hne⟩
  · rintro ⟨x, hx, hne⟩
    exact .decimal x hswitch hinteger hx hne

end Respelled

namespace SettingValue

variable {t : String}

theorem ofText_of_switch {b : Bool} (h : lowercaseText t = toString b) : ofText t = .bool b := by
  rw [ofText, h]
  cases b <;> rfl

theorem ofText_of_not_isSwitch (h : ¬ IsSwitch t) : ofText t =
    match readInt64 t with
    | .ok n => .int n
    | .error _ =>
      match readDouble t with
      | .ok x => .float x.toFloat
      | .error _ => .text t := by
  rw [ofText]
  split
  · exact absurd ⟨true, by assumption⟩ h
  · exact absurd ⟨false, by assumption⟩ h
  · rfl

theorem text?_bool (b : Bool) : text? (.bool b) = some (toString b) := by
  cases b <;> rfl

/-- **The texts that stay as they are**, when they are read without a type and written again. -/
theorem text?_ofText_eq_iff (t : String) : (ofText t).text? = some t ↔ ¬ IsRespelled t := by
  by_cases hswitch : IsSwitch t
  · obtain ⟨b, hb⟩ := hswitch
    rw [ofText_of_switch hb, text?_bool, Option.some.injEq, isRespelled_iff_of_switch hb, not_not,
      eq_comm]
  rw [ofText_of_not_isSwitch hswitch]
  cases hn : readInt64 t with
  | ok n =>
    rw [text?, Option.some.injEq, isRespelled_iff_of_integer hswitch hn, not_not, eq_comm]
  | error e =>
    have hinteger : ¬ IsInteger t := by
      rintro ⟨n, hn'⟩
      cases hn.symm.trans hn'
    rw [isRespelled_iff_of_decimal hswitch hinteger]
    cases hx : readDouble t with
    | ok x => simp [text?, eq_comm]
    | error e => simp [text?]

theorem ofText_ne_empty (t : String) : ofText t ≠ .empty := by
  unfold ofText
  split
  case h_1 => nofun
  case h_2 => nofun
  case h_3 =>
    split
    case h_1 => nofun
    case h_2 => split <;> nofun

end SettingValue

/-- A text with a character that no number is made of stays as it is: a path with a slash, say. -/
theorem not_isRespelled_of_mem {t : String} {c : Char} (hc : c ∈ t.toList) (hascii : c.toNat < 0x80)
    (hnumeral : isNumeralChar c = false) : ¬ IsRespelled t := by
  have hreads (h : ∀ c ∈ t.toList, isNumeralChar c = true) : False :=
    Bool.eq_false_iff.mp hnumeral (h c hc)
  rintro (⟨b, hb, -⟩ | ⟨n, -, hn, -⟩ | ⟨x, -, -, hx, -⟩)
  · have hne : c ≠ 'Σ' := fun h => absurd (h ▸ hascii) (by decide)
    have hmem : c.toLower ∈ (toString b).toList := by
      rw [← hb, lowercaseText, String.toList_ofList, lowercase]
      exact mem_lowercaseFrom_of_mem hc hne (by simp [lowerChar_of_ascii hascii])
    have hword : ∀ d ∈ (toString b).toList, d.isAlphanum = true := by
      cases b <;> decide
    exact Bool.eq_false_iff.mp hnumeral
      (isNumeralChar_of_isAlphanum (isAlphanum_of_toLower (hword _ hmem)))
  · exact hreads (isNumeralChar_of_readInt64 hn)
  · exact hreads (isNumeralChar_of_readDouble hx)

/-! ### Variables about a setting -/

/-- The variables that are about a setting: behind the label comes its name, or a path into it. -/
def IsVariableOf (k : SettingKey) (name : String) : Prop :=
  ∃ rest, lowercaseText name = variableLabel ++ rest ∧
    (rest = k.name ∨ settingPath? rest = some k.name)

/-- The text that the variables have for a setting, which is that of the last one about it. -/
def Surroundings.Gives (x : Surroundings) (k : SettingKey) (t : String) : Prop :=
  ∃ before name after, x.environment = before ++ (name, t) :: after ∧
    lowercaseText name = variableLabel ++ k.name ∧ ∀ e ∈ after, ¬ IsVariableOf k e.1

/-- What a variable sets. -/
def variableEntry (e : String × String) : Option (String × SettingValue) :=
  let name := lowercaseText e.1
  if name.startsWith variableLabel then
    some (settingEntry (String.ofList (name.toList.drop variableLabel.length)) (.ofText e.2))
  else none

theorem ofVariables_eq (environment : List (String × String)) :
    SettingLayer.ofVariables environment = environment.filterMap variableEntry := rfl

section Entries

variable {k : SettingKey} {e : String × String} {rest : String} {v : SettingValue}

theorem settingPath?_name (k : SettingKey) : settingPath? k.name = none := by
  cases k <;> decide +kernel

theorem settingEntry_name (k : SettingKey) (v : SettingValue) :
    settingEntry k.name v = (k.name, v) := by
  rw [settingEntry, settingPath?_name]

theorem variableEntry_of_append (h : lowercaseText e.1 = variableLabel ++ rest) :
    variableEntry e = some (settingEntry rest (.ofText e.2)) := by
  have hstarts : (variableLabel ++ rest).startsWith variableLabel = true := by
    rw [String.startsWith_string_iff, String.toList_append]
    exact List.prefix_append _ _
  have hdrop : String.ofList ((variableLabel ++ rest).toList.drop variableLabel.length) = rest := by
    rw [String.toList_append, ← String.length_toList, List.drop_left, String.ofList_toList]
  simp only [variableEntry, h, if_pos hstarts, hdrop]

theorem isVariableOf_of_variableEntry (h : variableEntry e = some (k.name, v)) :
    IsVariableOf k e.1 := by
  have hstarts : (lowercaseText e.1).startsWith variableLabel = true := by
    by_contra hnot
    simp only [variableEntry, if_neg hnot] at h
    cases h
  obtain ⟨rest, hrest⟩ := String.startsWith_string_iff.mp hstarts
  have hname : lowercaseText e.1 = variableLabel ++ String.ofList rest := by
    rw [← String.toList_inj, String.toList_append, String.toList_ofList, hrest]
  refine ⟨_, hname, ?_⟩
  rw [variableEntry_of_append hname, Option.some.injEq, settingEntry] at h
  split at h
  · cases h
    exact .inr ‹_›
  · exact .inl (congrArg Prod.fst h)

/-- The layer of variables has the text that is given for a setting, as what it reads as. -/
theorem Surroundings.Gives.sets {x : Surroundings} {t : String} (h : x.Gives k t) :
    (SettingLayer.ofVariables x.environment).Sets k.name (.ofText t) := by
  obtain ⟨before, name, after, henv, hname, hafter⟩ := h
  have hentry : variableEntry (name, t) = some (k.name, .ofText t) := by
    rw [variableEntry_of_append (e := (name, t)) hname, settingEntry_name]
  refine ⟨SettingValue.ofText_ne_empty t, before.filterMap variableEntry,
    after.filterMap variableEntry, ?_, ?_⟩
  · rw [ofVariables_eq, henv, List.filterMap_append, List.filterMap_cons_some hentry]
  · rintro ⟨name', v⟩ he rfl
    obtain ⟨e, he, hv⟩ := List.mem_filterMap.mp he
    exact hafter e he (isVariableOf_of_variableEntry hv)

theorem not_sets_ofVariables {x : Surroundings} (h : ∀ e ∈ x.environment, ¬ IsVariableOf k e.1) :
    ¬ (SettingLayer.ofVariables x.environment).Sets k.name v := by
  rintro ⟨-, before, after, hlayer, -⟩
  have hmem : (k.name, v) ∈ x.environment.filterMap variableEntry := by
    rw [← ofVariables_eq, hlayer]
    simp
  obtain ⟨e, he, hv⟩ := List.mem_filterMap.mp hmem
  exact h e he (isVariableOf_of_variableEntry hv)

end Entries

namespace Settings

/-- **A text setting is loaded as it is written** if files have it, and no variable is about it. If
variables have it, it is so exactly if their text is not respelled. -/
theorem get_eq_text_of_load (k : SettingKey) (hk : k.isText = true) (t : String) :
    (∀ R x files named s, x.Gives k t → loadFrom R x files named = .ok s →
      (s.get k = .text t ↔ ¬ IsRespelled t)) ∧
    ∀ R x files named low high s, (∀ e ∈ x.environment, ¬ IsVariableOf k e.1) →
      standardLayer R x files = .ok low → namedLayer R files named = .ok high →
      HighestSets [high, low] k.name (.text t) → loadFrom R x files named = .ok s →
      s.get k = .text t := by
  constructor
  case left =>
    intro R x files named s hgives hload
    obtain ⟨layers, hlayers, htaken, -⟩ := loadFrom_eq_ok_iff.mp hload
    obtain ⟨low, -, high, -, rfl⟩ := settingLayers_eq_ok_iff.mp hlayers
    rw [htaken.get_eq_text_iff hk (hgives.sets.highestSets _), SettingValue.text?_ofText_eq_iff]
  case right =>
    intro R x files named low high s hvariables hlow hhigh hfiles hload
    obtain ⟨layers, hlayers, htaken, -⟩ := loadFrom_eq_ok_iff.mp hload
    cases hlayers.symm.trans (settingLayers_eq_ok_iff.mpr ⟨low, hlow, high, hhigh, rfl⟩)
    have hhighest := (hfiles.append [.ofSettings (.default x)]).cons fun _ =>
      not_sets_ofVariables hvariables
    exact (htaken.get_eq_text_iff hk hhighest).mpr rfl

/-- A path with digits in it, given by a variable. -/
theorem get_eq_text_of_load_path :
    let x : Surroundings := ⟨"/home/user", [("LEXMAP_INDEX_PATH", "/srv/007")]⟩
    ∃ s, load x none none = .ok s ∧ s.get .indexPath = .text "/srv/007" := by
  intro x
  have hload : load x none none = .ok { default x with indexPath := "/srv/007" } := by
    decide +kernel
  have hgives : x.Gives .indexPath "/srv/007" := ⟨[], _, [], rfl, by decide +kernel, nofun⟩
  have hplain : ¬ IsRespelled "/srv/007" :=
    not_isRespelled_of_mem (by decide : '/' ∈ "/srv/007".toList) (by decide) (by decide)
  exact ⟨_, hload, ((get_eq_text_of_load .indexPath rfl "/srv/007").1 .plain x [] none _ hgives
    hload).mpr hplain⟩

/-- Digits with zeros in front lose these if a variable has them, and keep them in a file. -/
theorem get_ne_text_of_load_zeros :
    let x : Surroundings := ⟨"/home/user", [("LEXMAP_INDEX_PATH", "007")]⟩
    let y : Surroundings := ⟨"/home/user", []⟩
    let file : SettingsFile := ⟨"/home/user/settings.json", some "\x7b\"index_path\": \"007\"\x7d"⟩
    x.Gives .indexPath "007" ∧
      (∃ s, load x none none = .ok s ∧ s.get .indexPath ≠ .text "007") ∧
      ∃ s, load y none file = .ok s ∧ s.get .indexPath = .text "007" := by
  intro x y file
  have hx : load x none none = .ok { default x with indexPath := "7" } := by decide +kernel
  have hy : load y none file = .ok { default y with indexPath := "007" } := by decide +kernel
  exact ⟨⟨[], _, [], rfl, by decide +kernel, nofun⟩, ⟨_, hx, by decide⟩, _, hy, rfl⟩

end Settings

end Catalog
