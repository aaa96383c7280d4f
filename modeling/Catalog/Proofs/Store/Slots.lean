import Catalog.Proofs.Store.Identity
import Mathlib.Data.Multiset.Filter

/-!
# Entries that are not struck out

What a reader sees of an index are the entries that are not struck out, and of their order only what
the segments make of it. So they are counted by identity, without an order.

## Main definitions

* `liveDocuments`: the documents of the entries that are not struck out
* `documentsWith`: those that carry an identity
* `Draft.slots`: the entries of a draft, committed and added

## Main results

* `documentsWith_strike`: a deletion by an identity takes what carries it, if it fits a term
* `documentsWith_append_live`: an entry that is added counts for its own identity only
* `liveDocuments_commit`, `liveDocuments_merged`: segments do not matter
-/

namespace Catalog

/-- The documents of the entries that are not struck out. -/
def liveDocuments (slots : List Slot) : Multiset Document :=
  ((slots.filter Slot.isLive).map fun s => s.entry.document : List Document)

/-- The documents of entries that carry an identity in a field. -/
def documentsWith (field : String) (id : RecordId) (slots : List Slot) : Multiset Document :=
  (liveDocuments slots).filter fun d => d.identity? field = some id

@[simp] theorem liveDocuments_nil : liveDocuments [] = 0 := rfl

theorem exists_slot_of_mem_liveDocuments {slots : List Slot} {d : Document}
    (h : d ∈ liveDocuments slots) : ∃ slot ∈ slots, slot.entry.document = d := by
  obtain ⟨slot, hslot, rfl⟩ := List.mem_map.mp (Multiset.mem_coe.mp h)
  exact ⟨slot, List.mem_of_mem_filter hslot, rfl⟩

theorem liveDocuments_cons (s : Slot) (slots : List Slot) :
    liveDocuments (s :: slots) =
      (if s.isLive then {s.entry.document} else 0) + liveDocuments slots := by
  unfold liveDocuments
  cases h : s.isLive with
  | false => rw [List.filter_cons_of_neg (by simp [h])]; simp
  | true => rw [List.filter_cons_of_pos h]; simp

theorem liveDocuments_append (a b : List Slot) :
    liveDocuments (a ++ b) = liveDocuments a + liveDocuments b := by
  unfold liveDocuments
  rw [List.filter_append, List.map_append, Multiset.coe_add]

theorem liveDocuments_eq_of_perm {a b : List Slot} (h : a.Perm b) :
    liveDocuments a = liveDocuments b :=
  Multiset.coe_eq_coe.mpr ((h.filter _).map _)

theorem liveDocuments_filter_isLive (slots : List Slot) :
    liveDocuments (slots.filter Slot.isLive) = liveDocuments slots := by
  unfold liveDocuments
  rw [List.filter_filter]
  simp

theorem liveDocuments_of_not_isNeeded {segment : Segment} (h : segment.isNeeded = false) :
    liveDocuments segment = 0 := by
  unfold liveDocuments
  have hnil : segment.filter Slot.isLive = [] := by
    rw [List.filter_eq_nil_iff]
    simpa [Segment.isNeeded] using h
  rw [hnil]
  rfl

/-- Giving up segments without entries gives up no document. -/
theorem liveDocuments_filter_isNeeded (segments : List Segment) :
    liveDocuments (segments.filter Segment.isNeeded).flatten = liveDocuments segments.flatten := by
  induction segments with
  | nil => rfl
  | cons segment segments ih =>
    rw [List.flatten_cons, liveDocuments_append]
    cases h : segment.isNeeded with
    | false =>
      rw [List.filter_cons_of_neg (by simp [h]), ih, liveDocuments_of_not_isNeeded h,
        Multiset.zero_add]
    | true => rw [List.filter_cons_of_pos h, List.flatten_cons, liveDocuments_append, ih]

/-! ### Deletions and additions -/

variable {field : String} {id : RecordId}

theorem documentsWith_append (a b : List Slot) :
    documentsWith field id (a ++ b) = documentsWith field id a + documentsWith field id b := by
  rw [documentsWith, liveDocuments_append, Multiset.filter_add]
  rfl

theorem documentsWith_cons (s : Slot) (slots : List Slot) :
    documentsWith field id (s :: slots) =
      (if s.isLive ∧ s.entry.document.identity? field = some id then {s.entry.document} else 0) +
        documentsWith field id slots := by
  rw [documentsWith, liveDocuments_cons, Multiset.filter_add, ← documentsWith]
  congr 1
  by_cases hlive : s.isLive <;> by_cases hid : s.entry.document.identity? field = some id <;>
    simp [hlive, hid]

/-- An entry has the term of an identity if the identity is its own and fits a term. -/
theorem Entry.HasIdentity.contains_terms {e : Entry} {own : RecordId} (h : e.HasIdentity field own)
    (id : RecordId) : (e.terms field).contains (.text id.text) =
      (decide (own = id) && decide id.FitsTerm) := by
  rw [h.terms_eq]
  by_cases heq : own = id
  · subst heq
    by_cases hfits : own.FitsTerm <;> simp [hfits]
  · have htext : Payload.text id.text ≠ .text own.text := by
      intro htext
      cases own
      cases id
      cases htext
      exact heq rfl
    by_cases hfits : own.FitsTerm <;> simp [hfits, heq, htext]

/-- A deletion by an identity strikes an entry out if it is found under that identity. -/
theorem Entry.HasIdentity.isLive_strike {s : Slot} {own : RecordId}
    (h : s.entry.HasIdentity field own) :
    (s.strike field (.text id.text)).isLive =
      (s.isLive && !(decide (own = id) && decide id.FitsTerm)) := by
  rw [Slot.strike, h.contains_terms]
  cases decide (own = id) && decide id.FitsTerm <;> simp

theorem Slot.strike_entry (s : Slot) (value : Payload) :
    (s.strike field value).entry = s.entry := by
  unfold Slot.strike
  split <;> rfl

/-- **A deletion by an identity takes what carries it**, unless the identity is too long for a term;
then it takes nothing. -/
theorem documentsWith_strike {slots : List Slot}
    (h : ∀ s ∈ slots, ∃ own, s.entry.HasIdentity field own) (other : RecordId) :
    documentsWith field other (slots.map (Slot.strike field (.text id.text))) =
      if other = id ∧ id.FitsTerm then 0 else documentsWith field other slots := by
  induction slots with
  | nil => simp [documentsWith]
  | cons s slots ih =>
    obtain ⟨own, hown⟩ := h s (List.mem_cons_self ..)
    rw [List.map_cons, documentsWith_cons, documentsWith_cons,
      ih fun s hs => h s (List.mem_cons_of_mem _ hs), s.strike_entry, hown.isLive_strike,
      hown.identity?_document]
    by_cases heq : own = id
    · subst heq
      by_cases hfits : own.FitsTerm
      · by_cases hother : other = own
        · subst hother
          simp [hfits]
        · simp [hfits, hother, Ne.symm hother]
      · simp [hfits]
    · by_cases hother : other = id
      · subst hother
        by_cases hfits : other.FitsTerm <;> simp [heq, hfits]
      · simp [heq, hother]

/-- **An entry that is added counts for its own identity only.** -/
theorem documentsWith_append_live {e : Entry} {own : RecordId} (h : e.HasIdentity field own)
    (slots : List Slot) :
    documentsWith field id (slots ++ [⟨e, true⟩]) =
      documentsWith field id slots + if id = own then {e.document} else 0 := by
  rw [documentsWith_append, documentsWith_cons, h.identity?_document]
  congr 1
  by_cases heq : id = own
  · subst heq
    simp [documentsWith]
  · simp [documentsWith, heq, Ne.symm heq]

/-! ### Drafts and indexes -/

/-- The entries of a draft, committed and added. -/
def Draft.slots (d : Draft) : List Slot :=
  d.segments.flatten ++ d.added

theorem Draft.slots_apply_delete (d : Draft) (field : String) (value : Payload) :
    (d.apply (.delete field value)).slots = d.slots.map (Slot.strike field value) := by
  rw [slots, slots, List.map_append, List.map_flatten]
  rfl

theorem Draft.slots_apply_add (d : Draft) (e : Entry) :
    (d.apply (.add e)).slots = d.slots ++ [⟨e, true⟩] := by
  rw [slots, slots, List.append_assoc]
  rfl

/-- A property of all entries is kept by a change, unless it adds an entry without it. -/
theorem Draft.forall_apply {p : Entry → Prop} {d : Draft} (h : ∀ s ∈ d.slots, p s.entry)
    {c : Change} (hc : ∀ e, c = .add e → p e) : ∀ s ∈ (d.apply c).slots, p s.entry := by
  intro s hs
  cases c with
  | delete field value =>
    rw [slots_apply_delete] at hs
    obtain ⟨t, ht, rfl⟩ := List.mem_map.mp hs
    rw [t.strike_entry]
    exact h t ht
  | add e =>
    rw [slots_apply_add, List.mem_append] at hs
    rcases hs with hs | hs
    · exact h s hs
    · rw [List.mem_singleton.mp hs]
      exact hc e rfl

theorem Draft.forall_foldl_apply {p : Entry → Prop} {d : Draft} (h : ∀ s ∈ d.slots, p s.entry)
    {changes : List Change} (hchanges : ∀ e, .add e ∈ changes → p e) :
    ∀ s ∈ (changes.foldl Draft.apply d).slots, p s.entry := by
  induction changes generalizing d with
  | nil => exact h
  | cons c changes ih =>
    refine ih (forall_apply h fun e he => hchanges e ?_) fun e he =>
      hchanges e (List.mem_cons_of_mem _ he)
    exact he ▸ List.mem_cons_self ..

namespace Index

/-- The entries of an index. -/
def slots (i : Index) : List Slot :=
  i.segments.flatten

/-- The index before any change, as a draft. -/
def draft (i : Index) (changes : List Change) : Draft :=
  changes.foldl Draft.apply ⟨i.segments, []⟩

/-- What a commit publishes are the documents of the draft. -/
theorem liveDocuments_commit (i : Index) (changes : List Change) :
    liveDocuments (i.commit changes).slots = liveDocuments (i.draft changes).slots := by
  show liveDocuments (((i.draft changes).segments ++ [(i.draft changes).added]).filter
    Segment.isNeeded).flatten = _
  rw [liveDocuments_filter_isNeeded, List.flatten_append, List.flatten_singleton]
  rfl

/-- Merging segments publishes and withdraws nothing. -/
theorem liveDocuments_merged (i : Index) :
    liveDocuments i.merged.slots = liveDocuments i.slots := by
  unfold merged
  split
  · rfl
  · show liveDocuments ([i.ordered.flatten.filter Slot.isLive].filter Segment.isNeeded).flatten = _
    rw [liveDocuments_filter_isNeeded, List.flatten_singleton, liveDocuments_filter_isLive]
    exact liveDocuments_eq_of_perm (stableSort_perm _ _).flatten

theorem documentsWith_commit (i : Index) (changes : List Change) (field : String) (id : RecordId) :
    documentsWith field id (i.commit changes).slots =
      documentsWith field id (i.draft changes).slots := by
  rw [documentsWith, liveDocuments_commit, documentsWith]

theorem documentsWith_merged (i : Index) (field : String) (id : RecordId) :
    documentsWith field id i.merged.slots = documentsWith field id i.slots := by
  rw [documentsWith, liveDocuments_merged, documentsWith]

/-- Every entry of the index after a commit was in its draft. -/
theorem mem_slots_of_commit {i : Index} {changes : List Change} {s : Slot}
    (h : s ∈ (i.commit changes).slots) : s ∈ (i.draft changes).slots := by
  obtain ⟨segment, hsegment, hs⟩ := List.mem_flatten.mp h
  have hsegment : segment ∈ (i.draft changes).segments ++ [(i.draft changes).added] :=
    List.mem_of_mem_filter hsegment
  rcases List.mem_append.mp hsegment with hsegment | hsegment
  · exact List.mem_append_left _ (List.mem_flatten.mpr ⟨segment, hsegment, hs⟩)
  · exact List.mem_append_right _ (List.mem_singleton.mp hsegment ▸ hs)

/-- Every entry of the index after a merge was in it before. -/
theorem mem_slots_of_merged {i : Index} {s : Slot} (h : s ∈ i.merged.slots) : s ∈ i.slots := by
  unfold merged at h
  split at h
  · exact h
  · obtain ⟨segment, hsegment, hs⟩ := List.mem_flatten.mp h
    obtain rfl := List.mem_singleton.mp (List.mem_of_mem_filter hsegment)
    exact ((stableSort_perm _ _).flatten.mem_iff).mp (List.mem_of_mem_filter hs)

end Index

end Catalog
