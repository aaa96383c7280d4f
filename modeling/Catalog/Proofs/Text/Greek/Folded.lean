import Catalog.Proofs.Text.Greek.Passes
import Catalog.Proofs.Text.Greek.Words
import Mathlib.Data.List.Chain

/-!
# Texts that folding leaves alone

Folding ends where a pass changes nothing, so what a folded text looks like is a question about
such texts. A pass changes nothing just if it has nothing to do anywhere: every character is plain
and none of the vowels that are rewritten, and no two neighbours are a pair. No scanner is in this
description, although the scanner skips what stands behind a pair: where it finds none it skips
nothing.

A text that does not call for folding is returned as it is, without a pass. A pass would change it
after all if it holds one of four digraphs, a capital with a small letter, which are no capitals and
not in lower case either.

## Main definitions

* `Greek.IsFolded`: the texts that a pass leaves alone
* `Greek.smallDigraph`: the digraphs in lower case

## Main results

* `Greek.foldOnce_eq_self_iff`: these are the texts that a pass leaves alone
* `Greek.normalize_eq_self_iff`: which texts are folded forms
* `Greek.normalizeText_folded`: what no folded form holds
* `Greek.foldOnce_of_needsFolding_eq_false`: what a pass makes of a text that does not call for it
-/

namespace Catalog.Greek

/-- A text in which a pass finds nothing to do. -/
structure IsFolded (s : List Char) : Prop where
  /-- Every character is in lower case and without an accent, and is no eta, upsilon or omega. -/
  isSettled : ∀ c ∈ s, IsSettled c
  /-- No two neighbours are a pair. -/
  isChain : s.IsChain fun c d => isPair c d = false

/-! ### Fixed points of a pass -/

theorem labial_ne {d : Char} (hd : upsilons.contains d = true) (next after : Option Char) :
    labial d next after ≠ d := by
  have hall : ∀ d ∈ upsilons, labial d none none ≠ d ∧ labial d (some 'α') none ≠ d := by
    rw [upsilons_eq]
    decide
  exact forall_labial (p := (· ≠ d)) (hall d (List.contains_iff_mem.mp hd)) next after

theorem isPair_labial {c d : Char} (hc : opensLabial c = true) (hd : upsilons.contains d = true) :
    isPair c d = true := by
  rw [isPair, hc, hd]
  rfl

theorem isPair_epsilon {c d : Char} (hc : isAlpha c = true) (hd : iotas.contains d = true) :
    isPair c d = true := by
  rw [isPair, hc, hd]
  simp

theorem isPair_iota {c d : Char} (hc : yieldsToIota c = true) (hd : iotas.contains d = true) :
    isPair c d = true := by
  rw [isPair, hc, hd]
  simp

theorem not_isChain_of_isPair {c d : Char} (h : isPair c d = true) (s : List Char) :
    ¬ (c :: d :: s).IsChain fun c d => isPair c d = false := by
  intro hchain
  have hnot := (List.isChain_cons.mp hchain).1 d rfl
  rw [h] at hnot
  exact absurd hnot (by decide)

theorem beginsPair_eq_false_iff {c : Char} {s : List Char} :
    beginsPair c s = false ↔ ∀ d ∈ s.head?, isPair c d = false := by
  rw [beginsPair]
  cases s.head? <;> simp

/-- **Folding the sounds changes nothing** just if no letter and no pair is rewritten. A pair is
rewritten to a consonant or to one letter, so wherever there is one, it shows. -/
theorem foldSounds_eq_self_iff {s : List Char} :
    foldSounds s = s ↔
      (∀ c ∈ s, foldLetter c = c) ∧ s.IsChain fun c d => isPair c d = false := by
  induction s using foldSounds_induction with
  | nil => exact iff_of_true rfl ⟨nofun, .nil⟩
  | labial c d r hc hd ih =>
    refine iff_of_false (fun h => ?_) fun h => not_isChain_of_isPair (isPair_labial hc hd) r h.2
    rw [foldSounds_labial hc hd] at h
    exact labial_ne hd _ _ (List.cons.inj (List.cons.inj h).2).1
  | epsilon c d r hc hd ih =>
    refine iff_of_false (fun h => ?_) fun h => not_isChain_of_isPair (isPair_epsilon hc hd) r h.2
    have hlength := congrArg List.length h
    have hshort := length_foldSounds_le r
    rw [foldSounds_epsilon hc hd] at hlength
    simp only [List.length_cons] at hlength
    omega
  | iota c d r hc hd ih =>
    refine iff_of_false (fun h => ?_) fun h => not_isChain_of_isPair (isPair_iota hc hd) r h.2
    have hlength := congrArg List.length h
    have hshort := length_foldSounds_le r
    rw [foldSounds_iota hc hd] at hlength
    simp only [List.length_cons] at hlength
    omega
  | single c s hpair ih =>
    rw [foldSounds_cons hpair, List.cons.injEq, ih, List.forall_mem_cons, List.isChain_cons,
      ← beginsPair_eq_false_iff, and_iff_right hpair, and_assoc]

theorem isSettled_iff_of_isPlain {c : Char} (h : IsPlain c) : IsSettled c ↔ foldLetter c = c := by
  refine ⟨foldLetter_of_isSettled, fun hfold => ⟨h, ?_, ?_, ?_⟩⟩ <;> rintro rfl <;>
    exact absurd hfold (by decide)

/-- **A pass leaves a text alone just if it finds nothing to do in it.** -/
theorem foldOnce_eq_self_iff {s : List Char} : foldOnce s = s ↔ IsFolded s := by
  constructor
  · intro h
    have hplain : ∀ c ∈ s, IsPlain c := fun c hc => isPlain_of_mem_foldOnce (h ▸ hc)
    rw [foldOnce_of_isPlain hplain, foldSounds_eq_self_iff] at h
    exact ⟨fun c hc => (isSettled_iff_of_isPlain (hplain c hc)).mpr (h.1 c hc), h.2⟩
  · intro h
    have hplain : ∀ c ∈ s, IsPlain c := fun c hc => (h.isSettled c hc).1
    rw [foldOnce_of_isPlain hplain, foldSounds_eq_self_iff]
    exact ⟨fun c hc => foldLetter_of_isSettled (h.isSettled c hc), h.isChain⟩

/-! ### Folded forms -/

theorem isFolded_normalize {s : List Char} (h : needsFolding s = true) : IsFolded (normalize s) :=
  foldOnce_eq_self_iff.mp (foldOnce_normalize h)

/-- **The folded forms** are the texts that do not call for folding and those in which a pass finds
nothing to do. -/
theorem normalize_eq_self_iff {s : List Char} :
    normalize s = s ↔ needsFolding s = false ∨ IsFolded s := by
  constructor
  · intro h
    cases hs : needsFolding s with
    | false => exact .inl rfl
    | true => exact .inr (h ▸ isFolded_normalize hs)
  · rintro (h | h)
    · exact normalize_of_not_needsFolding h
    · exact normalize_of_foldOnce (foldOnce_eq_self_iff.mpr h)

/-- No capital of the Greek alphabet is in lower case. The code point between rho and sigma is no
letter. -/
theorem eq_of_isLower_of_capital {c : Char} (h : IsLower c) (hl : 0x391 ≤ c.toNat)
    (hg : c.toNat ≤ 0x3a9) : c.toNat = 0x3a2 := by
  have hall : c.toNat = 0x3a2 ∨ ¬ IsLower c :=
    forall_of_range (p := fun c => c.toNat = 0x3a2 ∨ ¬ IsLower c) (by decide +kernel) hl hg
  exact hall.resolve_right (not_not.mpr h)

/-- What holds of settled characters and below the Greek letters holds of all characters of a folded
form. -/
theorem forall_mem_normalize {p : Char → Prop} (hsettled : ∀ c, IsSettled c → p c)
    (hlow : ∀ c, c.toNat < 0x386 → p c) (s : List Char) : ∀ c ∈ normalize s, p c := by
  intro c hc
  cases hs : needsFolding s with
  | true => exact hsettled c ((isFolded_normalize hs).isSettled c hc)
  | false =>
    rw [normalize_of_not_needsFolding hs] at hc
    exact hlow c (bounds_of_mem_of_not_needsFolding hs hc).1

/-- No two neighbours in a folded form are a pair. -/
theorem isChain_normalize (s : List Char) :
    (normalize s).IsChain fun c d => isPair c d = false := by
  cases hs : needsFolding s with
  | true => exact (isFolded_normalize hs).isChain
  | false =>
    rw [normalize_of_not_needsFolding hs]
    exact (foldSounds_eq_self_iff.mp (foldSounds_of_inert (isInert_of_not_needsFolding hs))).2

/-- Each character of a folded form is its own folded form. -/
theorem normalize_singleton_of_mem {s : List Char} {c : Char} (hc : c ∈ normalize s) :
    normalize [c] = [c] := by
  rw [normalize_eq_self_iff]
  cases hs : needsFolding s with
  | true =>
    have hsettled := (isFolded_normalize hs).isSettled c hc
    exact .inr ⟨by simpa using hsettled, .singleton c⟩
  | false =>
    rw [normalize_of_not_needsFolding hs] at hc
    refine .inl (List.any_eq_false.mpr fun d hd => ?_)
    rw [List.mem_singleton.mp hd]
    exact List.any_eq_false.mp hs c hc

/-- **What no folded form holds**: a vowel with an accent or a diaeresis, an eta, upsilon or omega,
a capital of the Greek alphabet, or an iota behind an alpha, epsilon or omicron. So two folded forms
that differ do so in characters that folding keeps apart. -/
theorem normalizeText_folded (s : String) :
    (∀ c ∈ (normalizeText s).toList, stripAccent c = c ∧ c ≠ 'η' ∧ c ≠ 'υ' ∧ c ≠ 'ω' ∧
        (0x391 ≤ c.toNat → c.toNat ≤ 0x3a9 → c.toNat = 0x3a2)) ∧
      (∀ v ∈ ['α', 'ε', 'ο'], ¬ [v, 'ι'] <:+: (normalizeText s).toList) ∧
      ∀ t : String, ∀ c ∈ (normalizeText s).toList, ∀ d ∈ (normalizeText t).toList,
        normalizeText (String.singleton c) = normalizeText (String.singleton d) → c = d := by
  have htext (s : String) : (normalizeText s).toList = normalize s.toList := String.toList_ofList
  simp only [htext]
  refine ⟨?_, ?_, ?_⟩
  · refine forall_mem_normalize ?_ ?_ s.toList
    · rintro c ⟨⟨hlower, haccent⟩, hη, hυ, hω⟩
      exact ⟨haccent, hη, hυ, hω, eq_of_isLower_of_capital hlower⟩
    · intro c hc
      have hinert : IsInert c := isInert_of_toNat (.inl hc)
      refine ⟨stripAccent_of_inert hinert, ?_, ?_, ?_, fun hl _ => by omega⟩ <;> rintro rfl <;>
        exact absurd hc (by decide)
  · rintro v hv ⟨a, b, hab⟩
    have hchain := isChain_normalize s.toList
    rw [← hab, List.append_assoc, List.isChain_append] at hchain
    have hpair : ∀ v ∈ ['α', 'ε', 'ο'], isPair v 'ι' = true := by decide
    exact not_isChain_of_isPair (hpair v hv) b hchain.2.1
  · intro t c hc d hd heq
    have hletters : normalize [c] = normalize [d] :=
      String.ofList_inj.mp (by simpa [normalizeText] using heq)
    rw [normalize_singleton_of_mem hc, normalize_singleton_of_mem hd] at hletters
    exact List.singleton_inj.mp hletters

/-- Alpha, eta and iota take three passes: each of the first two makes the pair that the next one
fuses. -/
theorem normalizeText_folded_exposed :
    normalizeText "ΑΉΙ" = "ι" ∧ ¬ ['ε', 'ι'] <:+: (normalizeText "ΑΉΙ").toList :=
  ⟨by decide +kernel, (normalizeText_folded "ΑΉΙ").2.1 'ε' (by decide)⟩

/-! ### Texts that do not call for folding -/

/-- A digraph in lower case. Other characters stay as they are. -/
def smallDigraph : Char → Char
  | 'ǅ' => 'ǆ' | 'ǈ' => 'ǉ' | 'ǋ' => 'ǌ' | 'ǲ' => 'ǳ'
  | c => c

theorem smallDigraph_of_mem {e : Char × Char} (he : e ∈ digraphs) : smallDigraph e.1 = e.2 := by
  have hall : ∀ e ∈ digraphs, smallDigraph e.1 = e.2 := by decide
  exact hall e he

theorem smallDigraph_eq_self_iff {c : Char} : smallDigraph c = c ↔ ∀ e ∈ digraphs, e.1 ≠ c := by
  constructor
  · rintro h e he rfl
    have hall : ∀ e ∈ digraphs, smallDigraph e.1 ≠ e.1 := by decide
    exact hall e he h
  · intro h
    unfold smallDigraph
    split <;> first | rfl | exact absurd h (by decide)

theorem smallDigraph_eq_self_or (c : Char) : smallDigraph c = c ∨ ∃ e ∈ digraphs, e.1 = c := by
  by_cases h : ∃ e ∈ digraphs, e.1 = c
  · exact .inr h
  · exact .inl (smallDigraph_eq_self_iff.mpr fun e he heq => h ⟨e, he, heq⟩)

theorem smallDigraph_smallDigraph (c : Char) : smallDigraph (smallDigraph c) = smallDigraph c := by
  rcases smallDigraph_eq_self_or c with h | ⟨e, he, rfl⟩
  · rw [h, h]
  · have hall : ∀ e ∈ digraphs, smallDigraph e.2 = e.2 := by decide
    rw [smallDigraph_of_mem he, hall e he]

theorem not_isLower_of_mem_digraphs {e : Char × Char} (he : e ∈ digraphs) : ¬ IsLower e.1 := by
  have hall : ∀ e ∈ digraphs, ¬ IsLower e.1 := by decide +kernel
  exact hall e he

/-- Where a text does not call for folding, lower-casing changes its digraphs only. -/
theorem lowerChar_of_not_needsFolding {s : List Char} (h : needsFolding s = false) {c : Char}
    (hc : c ∈ s) : lowerChar c = [smallDigraph c] := by
  rcases isLower_or_mem_digraphs_of_mem h hc with hlower | ⟨d, hd, he⟩
  · have hsmall : smallDigraph c = c := smallDigraph_eq_self_iff.mpr fun e he heq =>
      not_isLower_of_mem_digraphs he (heq ▸ hlower)
    rw [hsmall]
    exact hlower
  · rw [hd, smallDigraph_of_mem he]

/-- **A pass over a text that does not call for one** puts its digraphs in lower case. -/
theorem foldOnce_of_not_needsFolding {s : List Char} (h : needsFolding s = false) :
    foldOnce s = s.map smallDigraph := by
  have hinert := isInert_of_not_needsFolding h
  have hsigma : ∀ c ∈ s, c ≠ 'Σ' := by
    rintro c hc rfl
    exact absurd (bounds_of_mem_of_not_needsFolding h hc).1 (by decide)
  calc
    foldOnce s = lowercase s := by
      rw [foldOnce, foldSounds_of_inert hinert, stripAccents_of_inert hinert]
    _ = s.flatMap lowerChar := lowercase_of_forall_ne hsigma
    _ = s.flatMap fun c => [smallDigraph c] :=
      List.flatMap_congr fun c hc => lowerChar_of_not_needsFolding h hc
    _ = s.map smallDigraph := List.map_eq_flatMap.symm

theorem needsFolding_map_smallDigraph {s : List Char} (h : needsFolding s = false) :
    needsFolding (s.map smallDigraph) = false := by
  rw [needsFolding, List.any_map, List.any_eq_false]
  intro c hc
  rw [Function.comp_apply]
  rcases smallDigraph_eq_self_or c with hsmall | ⟨e, he, rfl⟩
  · rw [hsmall]
    exact List.any_eq_false.mp h c hc
  · have hall : ∀ e ∈ digraphs, e.2.toNat < 0x386 ∧ isUppercase e.2 = false := by decide +kernel
    obtain ⟨hlow, hupper⟩ := hall e he
    rw [smallDigraph_of_mem he, hupper, Bool.or_false, decide_eq_true_eq, firstCode]
    omega

/-- The passes over a text that does not call for them end after the first. -/
theorem settle_of_not_needsFolding {s : List Char} (h : needsFolding s = false) {n : Nat}
    (hn : 0 < n) : settle foldOnce n (foldOnce s) = s.map smallDigraph := by
  have hrests : foldOnce (s.map smallDigraph) = s.map smallDigraph := by
    rw [foldOnce_of_not_needsFolding (needsFolding_map_smallDigraph h), List.map_map]
    exact List.map_congr_left fun c _ => smallDigraph_smallDigraph c
  rw [foldOnce_of_not_needsFolding h]
  exact (StopsAt.zero hrests).settle_eq hn

theorem map_smallDigraph_eq_self_iff {s : List Char} :
    s.map smallDigraph = s ↔ ∀ e ∈ digraphs, e.1 ∉ s := by
  have hfixed : s.map smallDigraph = s ↔ ∀ c ∈ s, smallDigraph c = c := by
    simpa using List.map_inj_left (l := s) (f := smallDigraph) (g := id)
  rw [hfixed]
  constructor
  · intro h e he hmem
    exact smallDigraph_eq_self_iff.mp (h e.1 hmem) e he rfl
  · intro h c hc
    refine smallDigraph_eq_self_iff.mpr fun e he heq => ?_
    exact h e he (heq ▸ hc)

/-- A token in lower case holds none of the digraphs, written in ASCII or not. -/
theorem not_mem_of_mem_digraphs {w : String} {s : List Char}
    (hs : s = (lowerToken w).toList ∨ s = foldToAscii (lowerToken w).toList) :
    ∀ e ∈ digraphs, e.1 ∉ s := by
  intro e he hmem
  have hlower : ∀ d ∈ (lowerToken w).toList, IsLower d := by
    rw [lowerToken, String.toList_ofList]
    exact isLower_of_mem_flatMap
  rcases hs with rfl | rfl
  · exact not_isLower_of_mem_digraphs he (hlower e.1 hmem)
  · have htabled := (isTabled_of_mem_digraphs he).1
    rcases mem_foldToAscii hmem with hascii | ⟨-, hnot⟩
    · have := htabled.1
      omega
    · exact hnot htabled

/-- **A pass over a text that does not call for folding** changes nothing, just if the text holds
none of four digraphs of a capital and a small letter. These it puts in lower case, and a further
pass does nothing more. A token, which is lower-cased before it is folded, holds none of them. -/
theorem foldOnce_of_needsFolding_eq_false {s : String} (h : needsFolding s.toList = false) :
    (foldOnce s.toList = s.toList ↔ ∀ e ∈ digraphs, e.1 ∉ s.toList) ∧
      foldOnce s.toList = s.toList.map smallDigraph ∧
      settle foldOnce (passBound s.length) (foldOnce s.toList) = s.toList.map smallDigraph ∧
      ∀ w : String,
        s.toList = (lowerToken w).toList ∨ s.toList = foldToAscii (lowerToken w).toList →
        foldOnce s.toList = s.toList := by
  have hpass := foldOnce_of_not_needsFolding h
  have hpasses := settle_of_not_needsFolding h (n := passBound s.length)
    (by unfold passBound; omega)
  have hiff : foldOnce s.toList = s.toList ↔ ∀ e ∈ digraphs, e.1 ∉ s.toList := by
    rw [hpass, map_smallDigraph_eq_self_iff]
  exact ⟨hiff, hpass, hpasses, fun w hw => hiff.mpr (not_mem_of_mem_digraphs hw)⟩

/-- A pass leaves a word in lower case alone, and so do all passes. -/
theorem foldOnce_of_needsFolding_eq_false_strasse :
    needsFolding "straße".toList = false ∧ foldOnce "straße".toList = "straße".toList ∧
      settle foldOnce (passBound 6) (foldOnce "straße".toList) = "straße".toList :=
  have hneeds : needsFolding "straße".toList = false := by decide +kernel
  have hsmall : "straße".toList.map smallDigraph = "straße".toList := by decide
  have h := foldOnce_of_needsFolding_eq_false hneeds
  ⟨hneeds, h.1.mpr (by decide), h.2.2.1.trans hsmall⟩

/-- The Croatian word for a pocket, with its digraph as it stands at the beginning of a sentence,
does not call for folding, and a pass changes it. -/
theorem foldOnce_pocket_ne : needsFolding "ǅep".toList = false ∧
    foldOnce "ǅep".toList = "ǆep".toList ∧ foldOnce "ǅep".toList ≠ "ǅep".toList := by
  decide +kernel

end Catalog.Greek
