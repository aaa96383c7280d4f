import Catalog.Proofs.Settings.Layers
import Catalog.Settings.Load

/-!
# What settings are loaded from

Four layers: variables over the file that the user names, over the file in the configuration
directory, over the defaults. Settings are loaded if both files can be read, if each setting can be
read from the highest layer that sets it, and if all of them together pass the checks.

## Main definitions

* `FileReader.IsPlain`: a name that at most one extension makes the name of a file
* `settingLayers`: the four layers

## Main results

* `FileReader.find?_eq_of_isPlain`: where names are plain the order of the formats does not matter
* `Settings.load_takesEach`: each setting is taken from the highest layer that sets it, whatever the
  other settings are
-/

namespace Catalog

/-! ### The file that a name means -/

/-- What is found first in a list is found in any list of the same elements, if nothing else is to
be found there. -/
theorem findSome?_eq_of_mem_iff {α β : Type} {l l' : List α} {f : α → Option β}
    (hmem : ∀ a, a ∈ l ↔ a ∈ l')
    (hone : ∀ a ∈ l, ∀ b ∈ l, (f a).isSome → (f b).isSome → f a = f b) :
    l.findSome? f = l'.findSome? f := by
  cases h : l.findSome? f with
  | none =>
    rw [eq_comm, List.findSome?_eq_none_iff]
    exact fun a ha => List.findSome?_eq_none_iff.mp h a ((hmem a).mpr ha)
  | some b =>
    obtain ⟨a, ha, hb⟩ := List.exists_of_findSome?_eq_some h
    have hfound : (l'.findSome? f).isSome :=
      List.findSome?_isSome_iff.mpr ⟨a, (hmem a).mp ha, by rw [hb]; rfl⟩
    obtain ⟨b', hb'⟩ := Option.isSome_iff_exists.mp hfound
    obtain ⟨a', ha', hfa'⟩ := List.exists_of_findSome?_eq_some hb'
    rw [hb', ← hb, ← hfa']
    exact hone a ha a' ((hmem a').mpr ha') (by rw [hb]; rfl) (by rw [hfa']; rfl)

namespace FileReader

variable {R R' : FileReader} {files : List SettingsFile} {name : String}

theorem mem_extended {f : FileFormat} {path : String} :
    (f, path) ∈ R.extended name ↔ ∃ e ∈ f.extensions, path = name ++ "." ++ e := by
  simp only [extended, List.mem_flatMap, List.mem_map, Prod.mk.injEq]
  constructor
  · rintro ⟨_, -, e, he, rfl, rfl⟩
    exact ⟨e, he, rfl⟩
  · rintro ⟨e, he, rfl⟩
    exact ⟨f, R.mem_formats f, e, he, rfl, rfl⟩

/-- At most one extension makes a name the name of a file. -/
def IsPlain (files : List SettingsFile) (name : String) : Prop :=
  ∀ f f' : FileFormat, ∀ e ∈ f.extensions, ∀ e' ∈ f'.extensions,
    (fileAt? files (name ++ "." ++ e)).isSome → (fileAt? files (name ++ "." ++ e')).isSome →
      f = f' ∧ e = e'

/-- **Where a name is plain the order of the formats does not matter.** -/
theorem find?_eq_of_isPlain (h : IsPlain files name) : R.find? files name = R'.find? files name := by
  rw [find?, find?]
  cases fileAt? files name with
  | some file => rfl
  | none =>
    refine findSome?_eq_of_mem_iff (fun c => by rw [mem_extended, mem_extended]) ?_
    rintro ⟨f, path⟩ hpath ⟨f', path'⟩ hpath' hsome hsome'
    obtain ⟨e, he, rfl⟩ := mem_extended.mp hpath
    obtain ⟨e', he', rfl⟩ := mem_extended.mp hpath'
    rw [Option.isSome_map] at hsome hsome'
    obtain ⟨rfl, rfl⟩ := h f f' e he e' he' hsome hsome'
    rfl

/-- Then two readers that take the same texts read the same. -/
theorem read_eq_of_isPlain (hlayer : R.layer? = R'.layer?) (h : IsPlain files name) :
    R.read files name = R'.read files name := by
  rw [read, read, find?_eq_of_isPlain h, hlayer]

end FileReader

/-- The layers that settings are loaded from, the highest first. -/
def settingLayers (R : FileReader) (x : Surroundings) (files : List SettingsFile)
    (named : Option String) : Except SettingsError (List SettingLayer) := do
  let low ← standardLayer R x files
  let high ← namedLayer R files named
  return [.ofVariables x.environment, high, low, .ofSettings (.default x)]

theorem settingLayers_eq_ok_iff {R : FileReader} {x : Surroundings} {files : List SettingsFile}
    {named : Option String} {layers : List SettingLayer} :
    settingLayers R x files named = .ok layers ↔
      ∃ low, standardLayer R x files = .ok low ∧ ∃ high, namedLayer R files named = .ok high ∧
        layers = [.ofVariables x.environment, high, low, .ofSettings (.default x)] := by
  simp only [settingLayers, bind, pure, Except.pure, bind_eq_ok_iff, Except.ok.injEq,
    eq_comm (a := layers)]

namespace Settings

variable {R : FileReader} {x : Surroundings} {files : List SettingsFile} {named : Option String}
  {s : Settings}

theorem read_default (x : Surroundings) (k : SettingKey) :
    k.read ((default x).get k).toValue = some ((default x).get k) := by
  cases k <;> rfl

theorem loadFrom_eq_ok_iff : loadFrom R x files named = .ok s ↔ ∃ layers,
    settingLayers R x files named = .ok layers ∧ s.IsTakenFrom layers ∧ s.validate = .ok () := by
  simp only [loadFrom, bind, pure, Except.pure, bind_eq_ok_iff, ofLayers_eq_ok_iff (read_default x),
    settingLayers_eq_ok_iff, Except.ok.injEq, List.cons_append, List.nil_append]
  constructor
  · rintro ⟨low, hlow, high, hhigh, _, htaken, _, hvalid, rfl⟩
    exact ⟨_, ⟨low, hlow, high, hhigh, rfl⟩, htaken, hvalid⟩
  · rintro ⟨_, ⟨low, hlow, high, hhigh, rfl⟩, htaken, hvalid⟩
    exact ⟨low, hlow, high, hhigh, s, htaken, (), hvalid, rfl⟩

/-- **Each setting is taken from the highest layer that sets it**, and settings are loaded only if
they pass the checks, whatever files there are and whichever order their extensions are tried in;
where the names of both files are plain that order changes nothing. Two loads give the same for a
setting if the highest layers that set it agree on it, whatever they and all others have for the
remaining settings. -/
theorem load_takesEach (R : FileReader) (x : Surroundings) (files : List SettingsFile)
    (named : Option String) :
    (∀ s, loadFrom R x files named = .ok s ↔ ∃ layers,
      settingLayers R x files named = .ok layers ∧ s.IsTakenFrom layers ∧ s.validate = .ok ()) ∧
    (∀ R' : FileReader, R.layer? = R'.layer? → FileReader.IsPlain files x.settingsName →
      (∀ name ∈ named, FileReader.IsPlain files name) →
      loadFrom R x files named = loadFrom R' x files named) ∧
    ∀ (k : SettingKey) (R' : FileReader) (x' : Surroundings) (files' : List SettingsFile)
      (named' : Option String) (layers layers' : List SettingLayer) (s s' : Settings),
      settingLayers R x files named = .ok layers →
      settingLayers R' x' files' named' = .ok layers' →
      loadFrom R x files named = .ok s → loadFrom R' x' files' named' = .ok s' →
      (∀ v, HighestSets layers k.name v → HighestSets layers' k.name v) → s.get k = s'.get k := by
  refine ⟨fun s => loadFrom_eq_ok_iff, ?_, ?_⟩
  case refine_1 =>
    intro R' hlayer hstandard hnamed
    have hlow : standardLayer R x files = standardLayer R' x files := by
      rw [standardLayer, standardLayer, FileReader.read_eq_of_isPlain hlayer hstandard]
    have hhigh : namedLayer R files named = namedLayer R' files named := by
      cases named with
      | none => rfl
      | some name =>
        rw [namedLayer, namedLayer, FileReader.read_eq_of_isPlain hlayer (hnamed name rfl)]
    rw [loadFrom, loadFrom, hlow, hhigh]
  case refine_2 =>
    intro k R' x' files' named' layers layers' s s' hlayers hlayers' hload hload' hagree
    obtain ⟨_, h, htaken, -⟩ := loadFrom_eq_ok_iff.mp hload
    obtain ⟨_, h', htaken', -⟩ := loadFrom_eq_ok_iff.mp hload'
    cases hlayers.symm.trans h
    cases hlayers'.symm.trans h'
    exact htaken.get_eq htaken' hagree

/-- A variable for the analyzer, a named file for the analyzer and the results of a search, and a
file in the configuration directory for these and the size of pages: three layers that set more and
more, the last of them in TOML. -/
theorem load_takesEach_nested :
    let x : Surroundings := ⟨"/home/user", [("LEXMAP_ANALYZER", "de")]⟩
    let standard : SettingsFile := ⟨"/home/user/.config/lexmap/config.toml",
      some "analyzer = \"fr\"\nmax_results = 7\npage_size = 7\n"⟩
    let named : SettingsFile := ⟨"/home/user/settings.json",
      some "\x7b\"analyzer\": \"en\", \"max_results\": 8\x7d"⟩
    let s := { default x with analyzer := "de", maxResults := 8, pageSize := 7 }
    loadFrom .plain x [standard, named] (some named.path) = .ok s ∧ ∃ layers,
      settingLayers .plain x [standard, named] (some named.path) = .ok layers ∧
        s.IsTakenFrom layers ∧ s.validate = .ok () := by
  intro x standard named s
  have hload : loadFrom .plain x [standard, named] (some named.path) = .ok s := by decide +kernel
  exact ⟨hload, ((load_takesEach .plain x _ _).1 s).mp hload⟩

end Settings

end Catalog
