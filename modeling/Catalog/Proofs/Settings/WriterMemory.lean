import Catalog.Proofs.Paging.Words
import Catalog.Proofs.Record.Sample
import Catalog.Settings.Basic
import Catalog.Store.Writer

/-!
# The memory of a writer

Settings give the memory of a writer in megabytes, and a store makes bytes of it by multiplying
words. The checks of settings know the least memory but no greatest, so the product may outgrow its
word: from `2 ^ 44` megabytes on it does, and the writer that is made then has to do with what is
left of the product, which may be as little as the least memory.

## Main definitions

* `mul?`: a product of words, unless it outgrows them
* `StoreConfig.writerBytes?`: the bytes of a writer, unless a step outgrows its word
* `mostWriterMb`: the most megabytes that a writer is made with

## Main results

* `StoreConfig.toNat_writerBytes`: what is left of the product
* `Store.writer_eq_ok_iff`: which memory a writer is made with
* `Settings.writerBytes_exact_iff`: the bytes are those that settings ask for below `2 ^ 44` megabytes
* `Settings.exists_overflow_of_validate`: settings that pass the checks, and a product that does not
  fit
-/

namespace Catalog

/-! ### Products of words -/

/-- The product of two words; none where it would outgrow them. -/
def mul? (a b : UInt64) : Option UInt64 :=
  if a.toNat * b.toNat ≤ wordMax then some (a * b) else none

/-- A product that does not outgrow its word is exact, and no other is. -/
theorem mul?_eq_some_iff {a b c : UInt64} : mul? a b = some c ↔ c.toNat = a.toNat * b.toNat := by
  have hmod : (a * b).toNat = a.toNat * b.toNat % 2 ^ 64 := UInt64.toNat_mul a b
  rw [mul?]
  split
  · next hfits =>
    rw [Nat.mod_eq_of_lt (Nat.lt_of_le_sub_one (by decide) hfits)] at hmod
    rw [Option.some.injEq, ← UInt64.toNat_inj, hmod, eq_comm]
  · next hfits => exact iff_of_false nofun fun h => hfits (h ▸ toNat_le_wordMax c)

namespace StoreConfig

variable {c : StoreConfig}

/-- The bytes that a writer may use, step by step; none where a step outgrows its word. -/
def writerBytes? (c : StoreConfig) : Option UInt64 :=
  (mul? c.writerMemoryMb.toUInt64 1024).bind fun kilobytes => mul? kilobytes 1024

/-- **What is left of the product** if it outgrows its word. -/
theorem toNat_writerBytes (c : StoreConfig) :
    c.writerBytes.toNat = c.writerMemoryMb % 2 ^ 44 * 1024 * 1024 := by
  have hword : c.writerMemoryMb.toUInt64.toNat = c.writerMemoryMb % 2 ^ 64 := UInt64.toNat_ofNat'
  have hfactor : (1024 : UInt64).toNat = 1024 := by decide
  rw [writerBytes, UInt64.toNat_mul, UInt64.toNat_mul, hword, hfactor]
  omega

/-- No step outgrows its word just if the bytes are exact. -/
theorem writerBytes?_eq_some_iff (hword : c.writerMemoryMb ≤ wordMax) {n : UInt64} :
    c.writerBytes? = some n ↔ n.toNat = c.writerMemoryMb * 1024 * 1024 := by
  have hmegabytes : c.writerMemoryMb.toUInt64.toNat = c.writerMemoryMb :=
    UInt64.toNat_ofNat_of_lt' (Nat.lt_of_le_sub_one (by decide) hword)
  have hfactor : (1024 : UInt64).toNat = 1024 := by decide
  simp only [writerBytes?, Option.bind_eq_some_iff, mul?_eq_some_iff, hmegabytes, hfactor]
  constructor
  · rintro ⟨kilobytes, hkilobytes, hn⟩
    rw [hn, hkilobytes]
  · intro hn
    have hkilobytes : c.writerMemoryMb * 1024 ≤ wordMax :=
      Nat.le_trans (Nat.le_mul_of_pos_right _ (by decide)) (hn ▸ toNat_le_wordMax n)
    have hexact : (UInt64.ofNat (c.writerMemoryMb * 1024)).toNat = c.writerMemoryMb * 1024 :=
      UInt64.toNat_ofNat_of_lt' (Nat.lt_of_le_sub_one (by decide) hkilobytes)
    exact ⟨_, hexact, by rw [hexact, hn]⟩

theorem writerBytes?_eq_none_iff (hword : c.writerMemoryMb ≤ wordMax) :
    c.writerBytes? = none ↔ wordMax < c.writerMemoryMb * 1024 * 1024 := by
  rw [← not_iff_not, ← ne_eq, Option.ne_none_iff_exists', Nat.not_lt]
  simp only [writerBytes?_eq_some_iff hword]
  constructor
  · rintro ⟨n, hn⟩
    exact hn ▸ toNat_le_wordMax n
  · intro hle
    exact ⟨_, UInt64.toNat_ofNat_of_lt' (Nat.lt_of_le_sub_one (by decide) hle)⟩

end StoreConfig

/-! ### Writers -/

/-- The most megabytes that a writer is made with, on a machine that runs some number of threads at
once. -/
def mostWriterMb (parallelism : Nat) : Nat :=
  (min parallelism writerThreads * (4294967295 - 1000000) - 1) / 2 ^ 20

theorem toNat_tooManyWriterBytes (parallelism : Nat) :
    (tooManyWriterBytes parallelism).toNat = min parallelism writerThreads * 4293967295 := by
  have hle : min parallelism writerThreads ≤ 8 := Nat.min_le_right ..
  have hthreads : (min parallelism writerThreads).toUInt64.toNat = min parallelism writerThreads :=
    UInt64.toNat_ofNat_of_lt' (Nat.lt_of_le_of_lt hle (by decide))
  have hthread : (4294967295 - 1000000 : UInt64).toNat = 4293967295 := by decide
  rw [tooManyWriterBytes, UInt64.toNat_mul, hthreads, hthread, Nat.mod_eq_of_lt (by omega)]

/-- **Which memory a writer is made with.** -/
theorem Store.writer_eq_ok_iff {ρ : Type} {s : Store ρ} {i : Index} (hlisted : i.isListed = true)
    (parallelism : Nat) : s.writer i false parallelism = .ok ⟨i, []⟩ ↔
      15 ≤ s.config.writerMemoryMb % 2 ^ 44 ∧
        s.config.writerMemoryMb % 2 ^ 44 ≤ mostWriterMb parallelism := by
  have hbytes := s.config.toNat_writerBytes
  have hrange : (s.config.writerBytes < leastWriterBytes ||
      tooManyWriterBytes parallelism ≤ s.config.writerBytes) = false ↔
        15 ≤ s.config.writerMemoryMb % 2 ^ 44 ∧
          s.config.writerMemoryMb % 2 ^ 44 ≤ mostWriterMb parallelism := by
    have hleast : leastWriterBytes.toNat = 15000000 := by decide
    rw [Bool.or_eq_false_iff, decide_eq_false_iff_not, decide_eq_false_iff_not, UInt64.lt_iff_toNat_lt,
      UInt64.le_iff_toNat_le, hleast, toNat_tooManyWriterBytes, hbytes, mostWriterMb]
    omega
  rw [← hrange, writer, hlisted]
  cases s.config.writerBytes < leastWriterBytes ||
      tooManyWriterBytes parallelism ≤ s.config.writerBytes with
  | true => exact iff_of_false nofun nofun
  | false => exact iff_of_true rfl rfl

/-- On a machine that runs eight threads or more. -/
example : mostWriterMb writerThreads = 32760 := by decide

/-! ### Settings -/

namespace Settings

variable {s : Settings} {x : Surroundings} {stemmer : Language → Stemmer} {c : StoreConfig}

theorem validate_eq_ok_iff :
    s.validate = .ok () ↔ 15 ≤ s.writerMemoryMb ∧ s.maxResults ≠ 0 ∧ s.pageSize ≠ 0 := by
  rw [validate, leastWriterMemoryMb]
  split
  · next h => exact iff_of_false nofun fun hvalid => UInt64.not_le.mpr h hvalid.1
  · next h =>
    split
    · next hresults => exact iff_of_false nofun fun hvalid => hvalid.2.1 hresults
    · next hresults =>
      split
      · next hsize => exact iff_of_false nofun fun hvalid => hvalid.2.2 hsize
      · next hsize => exact iff_of_true rfl ⟨UInt64.not_lt.mp h, hresults, hsize⟩

theorem writerMemoryMb_of_ofSettings (hc : StoreConfig.ofSettings s x stemmer = .ok c) :
    c.writerMemoryMb = s.writerMemoryMb.toNat := by
  rw [StoreConfig.ofSettings] at hc
  cases ha : Analyzer.ofName s.analyzer stemmer with
  | error e =>
    rw [ha] at hc
    cases hc
  | ok a =>
    rw [ha] at hc
    cases hc
    rfl

/-- No stemmer is needed for texts in Greek. -/
theorem ofSettings_greek (hs : s.analyzer = "greek") (x : Surroundings)
    (stemmer : Language → Stemmer) : StoreConfig.ofSettings s x stemmer =
      .ok ⟨s.expandedIndexPath x, s.writerMemoryMb.toNat, .greek, s.maxResults.toNat,
        s.pageSize.toNat⟩ := by
  rw [StoreConfig.ofSettings, hs]
  rfl

/-- **The bytes of a writer are those that settings ask for** just below `2 ^ 44` megabytes, for
settings that pass the checks and the configuration that is made of them. Then no step of the product
outgrows its word, and a writer is made unless the memory is too much for its threads, however many
the machine runs. Otherwise some step does, the writer gets less than it is asked for, and whether it
is made is settled by what is left. -/
theorem writerBytes_exact_iff {ρ : Type} (hvalid : s.validate = .ok ())
    (hc : StoreConfig.ofSettings s x stemmer = .ok c) :
    let bytes := s.writerMemoryMb.toNat * 1024 * 1024
    (bytes ≤ wordMax ↔ s.writerMemoryMb.toNat < 2 ^ 44) ∧
    (bytes ≤ wordMax → c.writerBytes? = some c.writerBytes ∧ c.writerBytes.toNat = bytes ∧
      ∀ (store : Store ρ) (i : Index) (parallelism : Nat), store.config = c → i.isListed = true →
        (store.writer i false parallelism = .ok ⟨i, []⟩ ↔
          s.writerMemoryMb.toNat ≤ mostWriterMb parallelism)) ∧
    (wordMax < bytes → c.writerBytes? = none ∧ c.writerBytes.toNat < bytes ∧
      ∀ (store : Store ρ) (i : Index) (parallelism : Nat), store.config = c → i.isListed = true →
        (store.writer i false parallelism = .ok ⟨i, []⟩ ↔ 15 ≤ s.writerMemoryMb.toNat % 2 ^ 44 ∧
          s.writerMemoryMb.toNat % 2 ^ 44 ≤ mostWriterMb parallelism)) := by
  intro bytes
  have hmegabytes := writerMemoryMb_of_ofSettings hc
  have hword : c.writerMemoryMb ≤ wordMax := hmegabytes ▸ toNat_le_wordMax _
  have hleast : 15 ≤ s.writerMemoryMb.toNat :=
    UInt64.le_iff_toNat_le.mp (validate_eq_ok_iff.mp hvalid).1
  have hbytes := c.toNat_writerBytes
  have hfits : bytes ≤ wordMax ↔ s.writerMemoryMb.toNat < 2 ^ 44 := by
    simp only [bytes, wordMax]
    omega
  rw [hmegabytes] at hbytes
  refine ⟨hfits, fun hle => ?_, fun hlt => ?_⟩
  · have hsmall := hfits.mp hle
    rw [Nat.mod_eq_of_lt hsmall] at hbytes
    refine ⟨(StoreConfig.writerBytes?_eq_some_iff hword).mpr (hmegabytes ▸ hbytes), hbytes, ?_⟩
    rintro store i parallelism rfl hlisted
    rw [Store.writer_eq_ok_iff hlisted, hmegabytes, Nat.mod_eq_of_lt hsmall]
    exact and_iff_right hleast
  · refine ⟨(StoreConfig.writerBytes?_eq_none_iff hword).mpr (hmegabytes ▸ hlt), ?_, ?_⟩
    · exact Nat.lt_of_le_of_lt (toNat_le_wordMax _) hlt
    · rintro store i parallelism rfl hlisted
      rw [Store.writer_eq_ok_iff hlisted, hmegabytes]

/-- A user who sets nothing gets the bytes that were asked for, and a writer. -/
theorem writerBytes_exact_iff_default :
    let x : Surroundings := ⟨"/home/user", []⟩
    ∃ c, (default x).validate = .ok () ∧ StoreConfig.ofSettings (default x) x = .ok c ∧
      c.writerBytes? = some 52428800 ∧
      (⟨Shop.schema, c, []⟩ : Store Shop).writer (.empty []) false = .ok ⟨.empty [], []⟩ := by
  intro x
  let c : StoreConfig := ⟨"/home/user/.local/share/lexmap/indexes", 50, .greek, 500, 20⟩
  have hvalid : (default x).validate = .ok () := by decide +kernel
  have hpath : (default x).expandedIndexPath x = c.root := by decide +kernel
  have hc : StoreConfig.ofSettings (default x) x = .ok c := by
    rw [ofSettings_greek rfl, hpath]
    rfl
  have hfits : (default x).writerMemoryMb.toNat * 1024 * 1024 ≤ wordMax := by decide +kernel
  obtain ⟨hbytes, -, hwriter⟩ := (writerBytes_exact_iff (ρ := Shop) hvalid hc).2.1 hfits
  have hnumber : c.writerBytes = 52428800 := by decide +kernel
  refine ⟨c, hvalid, hc, hnumber ▸ hbytes, (hwriter ⟨Shop.schema, c, []⟩ _ writerThreads rfl rfl).mpr ?_⟩
  decide +kernel

/-- **Settings that pass the checks may ask for more than a word holds.** A writer that is asked for
`2 ^ 44 + 15` megabytes has 15 of them left. -/
theorem exists_overflow_of_validate :
    ∃ (s : Settings) (x : Surroundings) (c : StoreConfig),
      s.writerMemoryMb = 17592186044431 ∧ s.validate = .ok () ∧
      StoreConfig.ofSettings s x = .ok c ∧ wordMax < c.writerMemoryMb * 1024 * 1024 ∧
      c.writerBytes? = none ∧ c.writerBytes.toNat = 15 * 1024 * 1024 := by
  let x : Surroundings := ⟨"/home/user", []⟩
  let s : Settings := { default x with writerMemoryMb := 17592186044431 }
  let c : StoreConfig :=
    ⟨"/home/user/.local/share/lexmap/indexes", 17592186044431, .greek, 500, 20⟩
  have hpath : s.expandedIndexPath x = c.root := by decide +kernel
  have hc : StoreConfig.ofSettings s x = .ok c := by
    rw [ofSettings_greek rfl, hpath]
    rfl
  exact ⟨s, x, c, rfl, by decide +kernel, hc, by decide, by decide +kernel, by decide +kernel⟩

end Settings

end Catalog
