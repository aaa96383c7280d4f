import Catalog.Proofs.Results
import Catalog.Settings.Layer

/-!
# Settings from several layers

A layer sets what it has a value for, and of several layers the highest that sets something decides
on it alone. The defaults are a layer as well, the lowest one, which sets everything; so each setting
is what its own name has in the highest layer that sets it, whatever the other settings are.

## Main definitions

* `SettingKey`, `Setting`, `Settings.get`: settings one by one
* `SettingLayer.Sets`: what a layer sets a name to
* `HighestSets`: what the highest layer that sets a name sets it to
* `SettingLayer.ofSettings`: the layer that sets everything
* `Settings.IsTakenFrom`: settings that are taken from layers, each by itself

## Main results

* `layeredValue?_eq_some_iff`: a value from layers is that of the highest one
* `Settings.ofLayers_eq_ok_iff`: the settings of layers
-/

namespace Catalog

/-- The settings, each by itself. -/
inductive SettingKey where
  | indexPath
  | writerMemoryMb
  | analyzer
  | maxResults
  | pageSize
  | logLevel
  deriving DecidableEq, Repr

/-- What one setting is: a text or a number. -/
inductive Setting where
  | text (t : String)
  | number (n : UInt64)
  deriving DecidableEq, Repr

namespace SettingKey

/-- The name that a setting has in layers. -/
def name : SettingKey → String
  | .indexPath => "index_path"
  | .writerMemoryMb => "writer_memory_mb"
  | .analyzer => "analyzer"
  | .maxResults => "max_results"
  | .pageSize => "page_size"
  | .logLevel => "log_level"

/-- Whether a setting is a text. -/
def isText : SettingKey → Bool
  | .indexPath | .analyzer | .logLevel => true
  | .writerMemoryMb | .maxResults | .pageSize => false

/-- A setting of a value, by the type that the setting has. -/
def read (k : SettingKey) (v : SettingValue) : Option Setting :=
  if k.isText then v.text?.map .text else v.number?.map .number

theorem read_eq_text_iff {k : SettingKey} {v : SettingValue} {t : String} (hk : k.isText = true) :
    k.read v = some (.text t) ↔ v.text? = some t := by
  simp [read, hk]

theorem read_eq_number_iff {k : SettingKey} {v : SettingValue} {n : UInt64}
    (hk : k.isText = false) : k.read v = some (.number n) ↔ v.number? = some n := by
  simp [read, hk]

theorem forall_iff {p : SettingKey → Prop} : (∀ k, p k) ↔ p .indexPath ∧
    p .writerMemoryMb ∧ p .analyzer ∧ p .maxResults ∧ p .pageSize ∧ p .logLevel := by
  refine ⟨fun h => ⟨h _, h _, h _, h _, h _, h _⟩, ?_⟩
  rintro ⟨h₁, h₂, h₃, h₄, h₅, h₆⟩ k
  cases k <;> assumption

end SettingKey

/-- A setting by its key. -/
def Settings.get (s : Settings) : SettingKey → Setting
  | .indexPath => .text s.indexPath
  | .writerMemoryMb => .number s.writerMemoryMb
  | .analyzer => .text s.analyzer
  | .maxResults => .number s.maxResults
  | .pageSize => .number s.pageSize
  | .logLevel => .text s.logLevel

/-! ### One layer -/

namespace SettingLayer

variable {l : SettingLayer} {name : String} {v w : SettingValue}

/-- A layer sets a name to the last value that it has for it, unless that one is empty. -/
def Sets (l : SettingLayer) (name : String) (v : SettingValue) : Prop :=
  v ≠ .empty ∧ ∃ before after, l = before ++ (name, v) :: after ∧ ∀ e ∈ after, e.1 ≠ name

theorem value?_eq_some_iff : l.value? name = some v ↔ l.Sets name v := by
  have hlast : (l.reverse.find? fun e => e.1 == name).map Prod.snd = some v ↔
      ∃ before after, l = before ++ (name, v) :: after ∧ ∀ e ∈ after, e.1 ≠ name := by
    rw [Option.map_eq_some_iff]
    constructor
    · rintro ⟨⟨name', v'⟩, hfind, rfl⟩
      obtain ⟨hname, after, before, hl, hafter⟩ := List.find?_eq_some_iff_append.mp hfind
      obtain rfl : name' = name := eq_of_beq hname
      refine ⟨before.reverse, after.reverse, ?_, fun e he => ?_⟩
      · rw [← l.reverse_reverse, hl]
        simp
      · simpa using hafter e (List.mem_reverse.mp he)
    · rintro ⟨before, after, rfl, hafter⟩
      refine ⟨(name, v), List.find?_eq_some_iff_append.mpr ⟨beq_self_eq_true name, after.reverse,
        before.reverse, by simp, fun e he => ?_⟩, rfl⟩
      simpa using hafter e (List.mem_reverse.mp he)
  rw [value?, Option.filter_eq_some_iff, hlast, bne_iff_ne, Sets, and_comm]

theorem value?_eq_none_iff : l.value? name = none ↔ ∀ v, ¬ l.Sets name v := by
  simp only [Option.eq_none_iff_forall_ne_some, ne_eq, value?_eq_some_iff]

end SettingLayer

/-! ### The highest layer -/

section Highest

variable {layers : List SettingLayer} {name : String} {v w : SettingValue}

/-- Of some layers, the highest first, the highest that sets a name sets it to a value. -/
def HighestSets (layers : List SettingLayer) (name : String) (v : SettingValue) : Prop :=
  ∃ higher l lower, layers = higher ++ l :: lower ∧ l.Sets name v ∧
    ∀ h ∈ higher, ∀ w, ¬ h.Sets name w

/-- **A value from layers is that of the highest layer** that sets the name. -/
theorem layeredValue?_eq_some_iff : layeredValue? layers name = some v ↔
    HighestSets layers name v := by
  simp only [layeredValue?, List.findSome?_eq_some_iff, SettingLayer.value?_eq_some_iff,
    SettingLayer.value?_eq_none_iff, HighestSets]

theorem HighestSets.unique (hv : HighestSets layers name v) (hw : HighestSets layers name w) :
    v = w :=
  Option.some.inj ((layeredValue?_eq_some_iff.mpr hv).symm.trans (layeredValue?_eq_some_iff.mpr hw))

theorem HighestSets.cons {l : SettingLayer} (h : HighestSets layers name v)
    (hl : ∀ w, ¬ l.Sets name w) : HighestSets (l :: layers) name v := by
  obtain ⟨higher, l', lower, rfl, hsets, hhigher⟩ := h
  exact ⟨l :: higher, l', lower, rfl, hsets, List.forall_mem_cons.mpr ⟨hl, hhigher⟩⟩

theorem HighestSets.append (h : HighestSets layers name v) (layers' : List SettingLayer) :
    HighestSets (layers ++ layers') name v := by
  obtain ⟨higher, l, lower, rfl, hsets, hhigher⟩ := h
  exact ⟨higher, l, lower ++ layers', by rw [List.append_assoc, List.cons_append], hsets, hhigher⟩

theorem SettingLayer.Sets.highestSets {l : SettingLayer} (h : l.Sets name v)
    (layers : List SettingLayer) : HighestSets (l :: layers) name v :=
  ⟨[], l, layers, rfl, h, nofun⟩

end Highest

/-! ### All settings -/

/-- A setting as a layer holds it. -/
def Setting.toValue : Setting → SettingValue
  | .text t => .text t
  | .number n => .int n.toInt64

/-- The layer that sets everything, and to given settings. -/
def SettingLayer.ofSettings (s : Settings) : SettingLayer :=
  [SettingKey.indexPath, .writerMemoryMb, .analyzer, .maxResults, .pageSize, .logLevel].map
    fun k => (k.name, (s.get k).toValue)

theorem SettingLayer.value?_ofSettings (s : Settings) (k : SettingKey) :
    (ofSettings s).value? k.name = some (s.get k).toValue := by
  cases k <;> rfl

namespace Settings

variable {d s : Settings} {layers : List SettingLayer}

/-- Settings that are taken from layers, each by itself: it is what the highest layer that sets it
sets it to. -/
def IsTakenFrom (s : Settings) (layers : List SettingLayer) : Prop :=
  ∀ k : SettingKey, ∃ v, HighestSets layers k.name v ∧ k.read v = some (s.get k)

/-- The fallback of a setting might as well be in a layer below all others. -/
theorem layered_eq_ok_iff {α : Type} {name : String} {read : SettingValue → Option α}
    {fallback a : α} {base : SettingLayer} {w : SettingValue} (hbase : base.value? name = some w)
    (hread : read w = some fallback) : layered layers name read fallback = .ok a ↔
      ∃ v, HighestSets (layers ++ [base]) name v ∧ read v = some a := by
  have hvalue : layeredValue? (layers ++ [base]) name =
      some ((layeredValue? layers name).getD w) := by
    rw [layeredValue?, List.findSome?_append, ← layeredValue?]
    simp only [List.findSome?_cons, hbase]
    cases layeredValue? layers name <;> rfl
  simp only [← layeredValue?_eq_some_iff, hvalue, Option.some.injEq, exists_eq_left', layered]
  cases layeredValue? layers name with
  | none => rw [Option.getD_none, hread, Except.ok.injEq, Option.some.injEq]
  | some v =>
    rw [Option.getD_some]
    dsimp only
    cases read v with
    | none => simp
    | some b => simp

/-- The same for a setting, with the layer of all defaults below. -/
theorem layered_read_eq_ok_iff {α : Type} {read : SettingValue → Option α} {make : α → Setting}
    {fallback a : α} (k : SettingKey)
    (hread : ∀ {v b}, k.read v = some (make b) ↔ read v = some b)
    (hget : d.get k = make fallback) (hd : k.read (d.get k).toValue = some (d.get k)) :
    layered layers k.name read fallback = .ok a ↔
      ∃ v, HighestSets (layers ++ [.ofSettings d]) k.name v ∧ k.read v = some (make a) := by
  simp only [hread]
  exact layered_eq_ok_iff (SettingLayer.value?_ofSettings d k) (hread.mp (hd.trans (by rw [hget])))

theorem ofLayers_eq_ok_iff_layered : ofLayers d layers = .ok s ↔
    layered layers "index_path" SettingValue.text? d.indexPath = .ok s.indexPath ∧
    layered layers "writer_memory_mb" SettingValue.number? d.writerMemoryMb =
      .ok s.writerMemoryMb ∧
    layered layers "analyzer" SettingValue.text? d.analyzer = .ok s.analyzer ∧
    layered layers "max_results" SettingValue.number? d.maxResults = .ok s.maxResults ∧
    layered layers "page_size" SettingValue.number? d.pageSize = .ok s.pageSize ∧
    layered layers "log_level" SettingValue.text? d.logLevel = .ok s.logLevel := by
  simp only [ofLayers, bind, pure, bind_eq_ok_iff, Except.pure, Except.ok.injEq]
  constructor
  · rintro ⟨_, h₁, _, h₂, _, h₃, _, h₄, _, h₅, _, h₆, rfl⟩
    exact ⟨h₁, h₂, h₃, h₄, h₅, h₆⟩
  · rintro ⟨h₁, h₂, h₃, h₄, h₅, h₆⟩
    exact ⟨_, h₁, _, h₂, _, h₃, _, h₄, _, h₅, _, h₆, rfl⟩

/-- **The settings of layers** are taken from these and, below them, from the defaults, if the
defaults can be read from a layer. -/
theorem ofLayers_eq_ok_iff (hd : ∀ k, k.read (d.get k).toValue = some (d.get k)) :
    ofLayers d layers = .ok s ↔ s.IsTakenFrom (layers ++ [.ofSettings d]) := by
  have htext (k : SettingKey) (hk : k.isText = true) {fallback t : String}
      (hget : d.get k = .text fallback) :
      layered layers k.name SettingValue.text? fallback = .ok t ↔
        ∃ v, HighestSets (layers ++ [.ofSettings d]) k.name v ∧ k.read v = some (.text t) :=
    layered_read_eq_ok_iff k (SettingKey.read_eq_text_iff hk) hget (hd k)
  have hnumber (k : SettingKey) (hk : k.isText = false) {fallback n : UInt64}
      (hget : d.get k = .number fallback) :
      layered layers k.name SettingValue.number? fallback = .ok n ↔
        ∃ v, HighestSets (layers ++ [.ofSettings d]) k.name v ∧ k.read v = some (.number n) :=
    layered_read_eq_ok_iff k (SettingKey.read_eq_number_iff hk) hget (hd k)
  rw [ofLayers_eq_ok_iff_layered, IsTakenFrom, SettingKey.forall_iff]
  exact and_congr (htext .indexPath rfl rfl) <| and_congr (hnumber .writerMemoryMb rfl rfl) <|
    and_congr (htext .analyzer rfl rfl) <| and_congr (hnumber .maxResults rfl rfl) <|
    and_congr (hnumber .pageSize rfl rfl) (htext .logLevel rfl rfl)

/-- What two settings are taken to be is the same, if the highest layers say the same of it. -/
theorem IsTakenFrom.get_eq {s' : Settings} {layers' : List SettingLayer} {k : SettingKey}
    (h : s.IsTakenFrom layers) (h' : s'.IsTakenFrom layers')
    (hk : ∀ v, HighestSets layers k.name v → HighestSets layers' k.name v) :
    s.get k = s'.get k := by
  obtain ⟨v, hv, hread⟩ := h k
  obtain ⟨v', hv', hread'⟩ := h' k
  rw [(hk v hv).unique hv', hread'] at hread
  exact (Option.some.inj hread).symm

theorem IsTakenFrom.get_eq_text_iff {k : SettingKey} {v : SettingValue} {t : String}
    (h : s.IsTakenFrom layers) (hk : k.isText = true) (hv : HighestSets layers k.name v) :
    s.get k = .text t ↔ v.text? = some t := by
  obtain ⟨w, hw, hread⟩ := h k
  rw [hw.unique hv] at hread
  rw [← SettingKey.read_eq_text_iff hk, hread, Option.some.injEq]

end Settings

end Catalog
