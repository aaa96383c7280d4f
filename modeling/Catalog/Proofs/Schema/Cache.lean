import Catalog.Schema.Cache
import Mathlib.Data.Finset.Card
import Mathlib.Logic.Function.Basic

/-!
# Calls at work on a cache

Any number of calls resolve types on one cache at a time, and entries are dropped in between. A call
looks its type up; if there is no entry it builds a schema, whatever the others do meanwhile, and
then publishes it. Between two drops of the entry of a type all calls agree: the first schema that
is published stands, and a later call gives its own up for it, however long it took to build. A
call whose build fails leaves no trace.

Schemas are whatever their identities are told by, so that equal ones are the same object.

## Main definitions

* `Progress`: how far a call has come
* `Shared`: a cache with the calls at work on it
* `Event`, `Shared.Step`, `Shared.Run`: what happens, at once and one after the other
* `Stands`: what has been published for a type since its entry was last dropped

## Main results

* `Shared.lookup?_iff_of_run`: the entries are what has been published and not dropped
* `Shared.eq_of_taken`: calls that take a schema of one type take the same
* `Shared.run_without`: a call that fails might as well not have been there
* `Shared.calls_agree`: all of this of a run from an empty cache
* `Shared.exists_run_resolve`: a resolve without others in between is a run of one call
-/

namespace Catalog

namespace SchemaCache

variable {τ σ : Type} [DecidableEq τ]

/-! ### Entries -/

section

variable {c : SchemaCache τ σ} {t u : τ} {s : σ}

theorem publish_of_lookup? (h : c.lookup? t = some s) (new : σ) : c.publish t new = (c, s) := by
  rw [publish, h]

theorem publish_of_absent (h : c.lookup? t = none) (s : σ) :
    c.publish t s = (⟨(t, s) :: c.entries⟩, s) := by
  rw [publish, h]

theorem lookup?_cons (e : τ × σ) (entries : List (τ × σ)) (t : τ) :
    lookup? ⟨e :: entries⟩ t = if e.1 = t then some e.2 else lookup? ⟨entries⟩ t := by
  rw [lookup?, List.find?_cons]
  by_cases h : e.1 = t
  · simp [h]
  · simp [h, lookup?]

/-- What stands after publishing is the entry. -/
theorem lookup?_publish_self (c : SchemaCache τ σ) (t : τ) (s : σ) :
    (c.publish t s).1.lookup? t = some (c.publish t s).2 := by
  cases h : c.lookup? t with
  | some old => rw [publish_of_lookup? h, h]
  | none => rw [publish_of_absent h, lookup?_cons, if_pos rfl]

theorem lookup?_publish_of_ne (h : t ≠ u) (c : SchemaCache τ σ) (s : σ) :
    (c.publish t s).1.lookup? u = c.lookup? u := by
  cases hc : c.lookup? t with
  | some old => rw [publish_of_lookup? hc]
  | none => rw [publish_of_absent hc, lookup?_cons, if_neg h]

theorem lookup?_invalidate_self (c : SchemaCache τ σ) (t : τ) :
    (c.invalidate t).1.lookup? t = none := by
  simp [invalidate, lookup?]

theorem lookup?_invalidate_of_ne (h : t ≠ u) (c : SchemaCache τ σ) :
    (c.invalidate t).1.lookup? u = c.lookup? u := by
  rw [invalidate, lookup?, lookup?, List.find?_filter]
  congr 2
  funext e
  by_cases he : e.1 = u
  · simp [he, h.symm]
  · simp [he]

theorem isSome_lookup?_iff : (c.lookup? t).isSome ↔ t ∈ c.entries.map Prod.fst := by
  rw [lookup?, Option.isSome_map, List.find?_isSome, List.mem_map]
  simp

/-- Whether no type has two entries. -/
def IsProper (c : SchemaCache τ σ) : Prop :=
  (c.entries.map Prod.fst).Nodup

theorem IsProper.publish (h : c.IsProper) (t : τ) (s : σ) : (c.publish t s).1.IsProper := by
  cases hc : c.lookup? t with
  | some old => rwa [publish_of_lookup? hc]
  | none =>
    rw [publish_of_absent hc]
    refine List.nodup_cons.mpr ⟨fun hmem => ?_, h⟩
    rw [← isSome_lookup?_iff, hc] at hmem
    cases hmem

theorem IsProper.invalidate (h : c.IsProper) (t : τ) : (c.invalidate t).1.IsProper :=
  h.sublist (List.filter_sublist.map _)

end

/-! ### Calls -/

/-- How far a call that resolves a type has come. -/
inductive Progress (τ σ : Type) where
  | waiting
  /-- There was no entry. -/
  | missed (type : τ)
  /-- A schema has been built and not yet published. -/
  | built (type : τ) (schema : σ)
  | returned (type : τ) (result : Except SchemaError σ)

/-- What happens at once. -/
inductive Event (ι τ σ : Type) where
  /-- A call finds an entry and returns it. -/
  | hit (call : ι) (type : τ) (schema : σ)
  /-- A call finds no entry. -/
  | miss (call : ι) (type : τ)
  /-- A call has built a schema. -/
  | build (call : ι) (type : τ) (schema : σ)
  /-- A call could not build one, and returns the error. -/
  | fail (call : ι) (type : τ) (error : SchemaError)
  /-- A call publishes what it has built, and returns the schema that stands then. -/
  | publish (call : ι) (type : τ) (standing : σ)
  /-- An entry is dropped. -/
  | invalidate (type : τ)

namespace Event

variable {ι : Type}

/-- The call that goes on. -/
def call? : Event ι τ σ → Option ι
  | hit c .. | miss c .. | build c .. | fail c .. | publish c .. => some c
  | invalidate _ => none

/-- Whether a call takes a schema of a type, from an entry or by publishing. -/
def Takes (e : Event ι τ σ) (c : ι) (t : τ) (s : σ) : Prop :=
  e = hit c t s ∨ e = publish c t s

end Event

/-- A cache with the calls at work on it. -/
structure Shared (ι τ σ : Type) where
  cache : SchemaCache τ σ
  progress : ι → Progress τ σ

namespace Shared

variable {ι : Type} [DecidableEq ι]

/-- An empty cache that no call has used yet. -/
def initial : Shared ι τ σ :=
  ⟨.empty, fun _ => .waiting⟩

/-- Notes how far a call has come. -/
def note (w : Shared ι τ σ) (c : ι) (p : Progress τ σ) : Shared ι τ σ :=
  { w with progress := Function.update w.progress c p }

/-- What happens at once: a call looks its type up, builds or publishes, or an entry is dropped. -/
inductive Step (w : Shared ι τ σ) : Event ι τ σ → Shared ι τ σ → Prop
  | hit {c : ι} {t : τ} {s : σ} (hc : w.progress c = .waiting) (h : w.cache.lookup? t = some s) :
      Step w (.hit c t s) (w.note c (.returned t (.ok s)))
  | miss {c : ι} {t : τ} (hc : w.progress c = .waiting) (h : w.cache.lookup? t = none) :
      Step w (.miss c t) (w.note c (.missed t))
  | build {c : ι} {t : τ} (hc : w.progress c = .missed t) (s : σ) :
      Step w (.build c t s) (w.note c (.built t s))
  | fail {c : ι} {t : τ} (hc : w.progress c = .missed t) (e : SchemaError) :
      Step w (.fail c t e) (w.note c (.returned t (.error e)))
  | publish {c : ι} {t : τ} {s : σ} (hc : w.progress c = .built t s) :
      Step w (.publish c t (w.cache.publish t s).2)
        ({ w with cache := (w.cache.publish t s).1 }.note c
          (.returned t (.ok (w.cache.publish t s).2)))
  | invalidate (t : τ) : Step w (.invalidate t) { w with cache := (w.cache.invalidate t).1 }

/-- What happens one after the other. -/
inductive Run : Shared ι τ σ → List (Event ι τ σ) → Shared ι τ σ → Prop
  | nil (w : Shared ι τ σ) : Run w [] w
  | cons {w w' w'' : Shared ι τ σ} {e : Event ι τ σ} {events : List (Event ι τ σ)}
      (hstep : Step w e w') (hrun : Run w' events w'') : Run w (e :: events) w''

variable {w w' : Shared ι τ σ} {e : Event ι τ σ} {events : List (Event ι τ σ)} {c : ι} {t : τ}
  {s : σ}

omit [DecidableEq τ] in
omit [DecidableEq τ] in
@[simp] theorem progress_note_self (w : Shared ι τ σ) (c : ι) (p : Progress τ σ) :
    (w.note c p).progress c = p := Function.update_self ..

omit [DecidableEq τ] in
theorem progress_note_of_ne {c' : ι} (h : c' ≠ c) (w : Shared ι τ σ) (p : Progress τ σ) :
    (w.note c p).progress c' = w.progress c' := Function.update_of_ne h ..

theorem run_append_iff {before after : List (Event ι τ σ)} :
    Run w (before ++ after) w' ↔ ∃ v, Run w before v ∧ Run v after w' := by
  induction before generalizing w with
  | nil =>
    refine ⟨fun h => ⟨w, .nil w, h⟩, ?_⟩
    rintro ⟨v, ⟨⟩, h⟩
    exact h
  | cons e before ih =>
    constructor
    · rintro ⟨⟩
      next hstep hrun =>
        obtain ⟨v, hbefore, hafter⟩ := ih.mp hrun
        exact ⟨v, .cons hstep hbefore, hafter⟩
    · rintro ⟨v, ⟨⟩, hafter⟩
      next hstep hbefore => exact .cons hstep (ih.mpr ⟨v, hbefore, hafter⟩)

theorem run_cons_iff : Run w (e :: events) w' ↔ ∃ v, Step w e v ∧ Run v events w' := by
  constructor
  · rintro ⟨⟩
    next hstep hrun => exact ⟨_, hstep, hrun⟩
  · rintro ⟨v, hstep, hrun⟩
    exact .cons hstep hrun

/-! ### What changes an entry -/

/-- **What a step makes of an entry.** Publishing sets it, to what stands then; only dropping it
takes it away, and nothing else touches it. -/
theorem lookup?_of_step (h : Step w e w') (t : τ) :
    (∃ c s, e = .publish c t s ∧ w'.cache.lookup? t = some s ∧
      (w.cache.lookup? t = none ∨ w.cache.lookup? t = some s)) ∨
    (e = .invalidate t ∧ w'.cache.lookup? t = none) ∨
    ((∀ c s, e ≠ .publish c t s) ∧ e ≠ .invalidate t ∧
      w'.cache.lookup? t = w.cache.lookup? t) := by
  cases h with
  | hit | miss | build | fail => exact .inr (.inr ⟨nofun, nofun, rfl⟩)
  | @publish c u s hc =>
    by_cases hu : u = t
    · subst hu
      refine .inl ⟨c, _, rfl, w.cache.lookup?_publish_self u s, ?_⟩
      cases hlookup : w.cache.lookup? u with
      | none => exact .inl rfl
      | some old => rw [publish_of_lookup? hlookup]; exact .inr rfl
    · refine .inr (.inr ⟨?_, nofun, lookup?_publish_of_ne hu _ s⟩)
      rintro _ _ ⟨⟩
      exact hu rfl
  | invalidate u =>
    by_cases hu : u = t
    · subst hu
      exact .inr (.inl ⟨rfl, w.cache.lookup?_invalidate_self u⟩)
    · refine .inr (.inr ⟨nofun, ?_, lookup?_invalidate_of_ne hu _⟩)
      rintro ⟨⟩
      exact hu rfl

/-- An entry stays until it is dropped. -/
theorem lookup?_of_run (h : Run w events w') (hw : w.cache.lookup? t = some s)
    (hkept : .invalidate t ∉ events) : w'.cache.lookup? t = some s := by
  induction h with
  | nil => exact hw
  | cons hstep _ ih =>
    rw [List.mem_cons, not_or] at hkept
    refine ih ?_ hkept.2
    rcases lookup?_of_step hstep t with ⟨c, s', -, hnew, hold⟩ | ⟨rfl, -⟩ | ⟨-, -, hsame⟩
    · rw [hw] at hold
      exact hnew.trans (hold.resolve_left nofun).symm
    · exact absurd rfl hkept.1
    · exact hsame.trans hw

/-! ### What calls take -/

/-- What a call takes is the entry then, and was it before unless there was none. -/
theorem lookup?_of_takes (h : Step w e w') (he : e.Takes c t s) :
    w'.cache.lookup? t = some s ∧ (w.cache.lookup? t = none ∨ w.cache.lookup? t = some s) := by
  rcases he with rfl | rfl
  · cases h with
    | hit hc hlookup => exact ⟨hlookup, .inr hlookup⟩
  · rcases lookup?_of_step h t with ⟨_, _, ⟨⟩, hnew, hold⟩ | ⟨⟨⟩, -⟩ | ⟨hnot, -⟩
    · exact ⟨hnew, hold⟩
    · exact absurd rfl (hnot c s)

/-- **Calls that take a schema of one type take the same**, unless its entry is dropped in
between. -/
theorem eq_of_taken {before between after : List (Event ι τ σ)} {e e' : Event ι τ σ} {c c' : ι}
    {s s' : σ} (h : Run w (before ++ e :: between ++ e' :: after) w') (he : e.Takes c t s)
    (he' : e'.Takes c' t s') (hkept : .invalidate t ∉ between) : s = s' := by
  -- The entry that the first call takes is still there when the second one takes its own.
  rw [List.append_assoc] at h
  obtain ⟨v, -, hrun⟩ := run_append_iff.mp h
  obtain ⟨v₁, hstep, hrun⟩ := run_cons_iff.mp hrun
  obtain ⟨v₂, hbetween, hrun⟩ := run_append_iff.mp hrun
  obtain ⟨v₃, hstep', -⟩ := run_cons_iff.mp hrun
  have hfirst := lookup?_of_run hbetween (lookup?_of_takes hstep he).1 hkept
  have hsecond := (lookup?_of_takes hstep' he').2
  rw [hfirst] at hsecond
  exact Option.some.inj (hsecond.resolve_left nofun)

/-- A call does nothing while others go on. -/
theorem progress_of_step_of_ne (h : Step w e w') (hc : e.call? ≠ some c) :
    w'.progress c = w.progress c := by
  have hne {d : ι} (hd : some d ≠ some c) : c ≠ d := fun heq => hd (congrArg some heq.symm)
  cases h with
  | hit | miss | build | fail | publish => exact progress_note_of_ne (hne hc) _ _
  | invalidate => rfl

/-- A call that has returned does nothing more. -/
theorem progress_of_run_of_returned {r : Except SchemaError σ} (h : Run w events w')
    (hc : w.progress c = .returned t r) : w'.progress c = .returned t r := by
  induction h with
  | nil => exact hc
  | @cons v v' _ e _ hstep _ ih =>
    refine ih ((progress_of_step_of_ne hstep fun hcall => ?_).trans hc)
    cases hstep with
    | hit hd | miss hd | build hd | fail hd | publish hd =>
      cases hcall
      rw [hc] at hd
      cases hd
    | invalidate => cases hcall

/-- What a call takes it returns, and it returns no schema that it has not taken. -/
theorem returned_iff_of_step (h : Step w e w') : w'.progress c = .returned t (.ok s) ↔
    w.progress c = .returned t (.ok s) ∨ e.Takes c t s := by
  constructor
  · intro hc
    by_cases hcall : e.call? = some c
    · cases h with
      | hit =>
        cases hcall
        rw [progress_note_self] at hc
        cases hc
        exact .inr (.inl rfl)
      | publish =>
        cases hcall
        rw [progress_note_self] at hc
        cases hc
        exact .inr (.inr rfl)
      | miss | build | fail =>
        cases hcall
        rw [progress_note_self] at hc
        cases hc
      | invalidate => cases hcall
    · exact .inl ((progress_of_step_of_ne h hcall).symm.trans hc)
  · rintro (hc | rfl | rfl)
    · exact progress_of_run_of_returned (.cons h (.nil _)) hc
    · cases h
      exact progress_note_self ..
    · cases h
      exact progress_note_self ..

theorem returned_iff_of_run (h : Run w events w') : w'.progress c = .returned t (.ok s) ↔
    w.progress c = .returned t (.ok s) ∨ ∃ e ∈ events, e.Takes c t s := by
  induction h with
  | nil => simp
  | cons hstep _ ih =>
    rw [ih, returned_iff_of_step hstep, or_assoc, List.exists_mem_cons_iff]

/-! ### Calls that fail -/

end Shared

/-- Whether a call has not built a schema. -/
def Progress.IsFruitless : Progress τ σ → Prop
  | waiting | missed _ | returned _ (.error _) => True
  | built _ _ | returned _ (.ok _) => False

namespace Shared

variable {ι : Type} [DecidableEq ι] {w w' : Shared ι τ σ} {e : Event ι τ σ}
  {events : List (Event ι τ σ)} {c : ι} {t : τ} {s : σ}

/-- A call that has not built a schema has not touched the cache. -/
theorem isFruitless_of_step (h : Step w e w') (hc : (w'.progress c).IsFruitless) :
    (w.progress c).IsFruitless ∧ (e.call? = some c → w'.cache = w.cache) := by
  by_cases hcall : e.call? = some c
  · cases h with
    | hit | build | publish =>
      cases hcall
      rw [progress_note_self] at hc
      cases hc
    | miss hd | fail hd =>
      cases hcall
      rw [hd]
      exact ⟨trivial, fun _ => rfl⟩
    | invalidate => cases hcall
  · rw [← progress_of_step_of_ne h hcall]
    exact ⟨hc, fun hcall' => absurd hcall' hcall⟩

theorem isFruitless_of_run (h : Run w events w') (hc : (w'.progress c).IsFruitless) :
    (w.progress c).IsFruitless := by
  induction h with
  | nil => exact hc
  | cons hstep _ ih => exact (isFruitless_of_step hstep (ih hc)).1

/-- A cache at which one call has not begun. -/
def without (w : Shared ι τ σ) (c : ι) : Shared ι τ σ :=
  w.note c .waiting

omit [DecidableEq τ] in
theorem without_note (w : Shared ι τ σ) (c : ι) (p : Progress τ σ) :
    (w.note c p).without c = w.without c := by
  simp only [without, note, Function.update_idem]

omit [DecidableEq τ] in
theorem without_note_of_ne {d : ι} (h : d ≠ c) (w : Shared ι τ σ) (p : Progress τ σ) :
    (w.note d p).without c = (w.without c).note d p := by
  simp only [without, note, Function.update_comm h]

/-- What others do does not depend on a call. -/
theorem step_without (h : Step w e w') (hc : e.call? ≠ some c) :
    Step (w.without c) e (w'.without c) := by
  have hother {d : ι} (hd : some d ≠ some c) :
      d ≠ c ∧ (w.without c).progress d = w.progress d := by
    have hne : d ≠ c := fun heq => hd (congrArg some heq)
    exact ⟨hne, progress_note_of_ne hne _ _⟩
  cases h with
  | hit hd hlookup | miss hd hlookup =>
    rw [without_note_of_ne (hother hc).1]
    constructor
    · exact (hother hc).2.trans hd
    · exact hlookup
  | build hd | fail hd =>
    rw [without_note_of_ne (hother hc).1]
    constructor
    exact (hother hc).2.trans hd
  | publish hd =>
    rw [without_note_of_ne (hother hc).1]
    exact .publish ((hother hc).2.trans hd)
  | invalidate t => exact .invalidate t

/-- A step that leaves the cache shows in its call only. -/
theorem without_of_step (h : Step w e w') (hc : e.call? = some c) (hcache : w'.cache = w.cache) :
    w'.without c = w.without c := by
  cases h with
  | hit | miss | build | fail =>
    cases hc
    exact without_note ..
  | publish =>
    cases hc
    have hcache : (w.cache.publish _ _).1 = w.cache := hcache
    rw [without_note, hcache]
  | invalidate => cases hc

/-- **A call that fails might as well not have been there.** The others go the same way without
it. -/
theorem run_without (h : Run w events w') (hc : (w'.progress c).IsFruitless) :
    Run (w.without c) (events.filter fun e => e.call? ≠ some c) (w'.without c) := by
  induction h with
  | nil => exact .nil _
  | @cons v v' _ e _ hstep hrun ih =>
    by_cases hcall : e.call? = some c
    · rw [List.filter_cons_of_neg (by simpa using hcall)]
      have hcache := (isFruitless_of_step hstep (isFruitless_of_run hrun hc)).2 hcall
      rw [← without_of_step hstep hcall hcache]
      exact ih hc
    · rw [List.filter_cons_of_pos (by simpa using hcall)]
      exact .cons (step_without hstep hcall) (ih hc)

/-! ### What is in the cache -/

end Shared

/-- Whether a schema has been published for a type and its entry has not been dropped since. -/
def Stands {ι : Type} (events : List (Event ι τ σ)) (t : τ) (s : σ) : Prop :=
  ∃ before c after, events = before ++ .publish c t s :: after ∧ .invalidate t ∉ after

omit [DecidableEq τ] in
theorem stands_concat_iff {ι : Type} {events : List (Event ι τ σ)} {e : Event ι τ σ} {t : τ}
    {s : σ} : Stands (events ++ [e]) t s ↔
      (∃ c, e = .publish c t s) ∨ Stands events t s ∧ e ≠ .invalidate t := by
  constructor
  · rintro ⟨before, c, after, heq, hkept⟩
    rcases List.eq_nil_or_concat after with rfl | ⟨after, e', rfl⟩
    · exact .inl ⟨c, List.singleton_inj.mp (List.append_inj_right' heq rfl)⟩
    · rw [List.concat_eq_append] at heq hkept
      rw [← List.cons_append, ← List.append_assoc] at heq
      obtain ⟨rfl, he⟩ := List.append_inj' heq rfl
      obtain rfl := List.singleton_inj.mp he
      rw [List.mem_append, List.mem_singleton, not_or] at hkept
      exact .inr ⟨⟨before, c, after, rfl, hkept.1⟩, fun heq => hkept.2 heq.symm⟩
  · rintro (⟨c, rfl⟩ | ⟨⟨before, c, after, rfl, hkept⟩, he⟩)
    · exact ⟨events, c, [], rfl, List.not_mem_nil⟩
    · refine ⟨before, c, after ++ [e], by simp, ?_⟩
      rw [List.mem_append, List.mem_singleton, not_or]
      exact ⟨hkept, fun heq => he heq.symm⟩

namespace Shared

variable {ι : Type} [DecidableEq ι] {w w' : Shared ι τ σ} {e : Event ι τ σ}
  {events : List (Event ι τ σ)} {c : ι} {t : τ} {s : σ}

/-- **The entries are what has been published and not dropped.** -/
theorem lookup?_iff_of_run (h : Run initial events w) :
    w.cache.lookup? t = some s ↔ Stands events t s := by
  induction events using List.reverseRecOn generalizing w s with
  | nil =>
    cases h
    exact iff_of_false nofun fun ⟨before, _, _, heq, _⟩ => by cases before <;> cases heq
  | append_singleton events e ih =>
    -- The last event is split off: only it can still change what the others have left.
    obtain ⟨v, hrun, hlast⟩ := run_append_iff.mp h
    obtain ⟨_, hstep, ⟨⟩⟩ := run_cons_iff.mp hlast
    rw [stands_concat_iff, ← ih hrun]
    rcases lookup?_of_step hstep t with
      ⟨c, s', rfl, hnew, hold⟩ | ⟨rfl, hnone⟩ | ⟨hne, hkept, hsame⟩
    · rw [hnew]
      constructor
      · rintro ⟨⟩
        exact .inl ⟨c, rfl⟩
      · rintro (⟨_, ⟨⟩⟩ | ⟨hv, -⟩)
        · rfl
        · rw [hv] at hold
          exact (hold.resolve_left nofun).symm
    · rw [hnone]
      exact iff_of_false nofun fun h => h.elim (fun ⟨_, h⟩ => nomatch h) fun h => h.2 rfl
    · rw [hsame]
      exact ⟨fun h => .inr ⟨h, hkept⟩, fun h => h.elim (fun ⟨c, h⟩ => absurd h (hne c s)) And.left⟩

/-- No type ever has two entries. -/
theorem isProper_of_run (h : Run w events w') (hw : w.cache.IsProper) : w'.cache.IsProper := by
  induction h with
  | nil => exact hw
  | cons hstep _ ih =>
    refine ih ?_
    cases hstep with
    | hit | miss | build | fail => exact hw
    | publish => exact hw.publish _ _
    | invalidate t => exact hw.invalidate t

/-- **The size of the cache is the number of types that have been published since their entry was
last dropped.** -/
theorem exists_size_of_run (h : Run initial events w) :
    ∃ types : Finset τ, (∀ t, t ∈ types ↔ ∃ s, Stands events t s) ∧ w.cache.size = types.card := by
  have hproper : w.cache.IsProper := isProper_of_run h List.nodup_nil
  refine ⟨(w.cache.entries.map Prod.fst).toFinset, fun t => ?_, ?_⟩
  · rw [List.mem_toFinset, ← isSome_lookup?_iff, Option.isSome_iff_exists]
    exact exists_congr fun s => lookup?_iff_of_run h
  · rw [List.toFinset_card_of_nodup hproper, List.length_map, size]

/-! ### All calls together -/

/-- **What any number of calls do to an empty cache.** At each moment an entry is changed only by
dropping it, or it is published where there was none. All calls that take a schema of a type with no
drop of its entry in between take the same, and return it; nothing else is returned. What a call
that fails does leaves the cache as it was, so that the others come to the same end without it. The
size of the cache is the number of types that have been published since their entry was last
dropped. -/
theorem calls_agree (h : Run initial events w) :
    (∀ before e after v v', events = before ++ e :: after → Run initial before v → Step v e v' →
      Run v' after w →
        (∀ t, v'.cache.lookup? t ≠ v.cache.lookup? t → e = .invalidate t ∨
          v.cache.lookup? t = none ∧ ∃ c s, e = .publish c t s ∧ v'.cache.lookup? t = some s) ∧
        ∀ c t error, e.call? = some c → w.progress c = .returned t (.error error) →
          v'.cache = v.cache) ∧
    (∀ before e between e' after c c' t s s', events = before ++ e :: between ++ e' :: after →
      e.Takes c t s → e'.Takes c' t s' → .invalidate t ∉ between → s = s') ∧
    (∀ c t s, w.progress c = .returned t (.ok s) ↔ ∃ e ∈ events, e.Takes c t s) ∧
    (∀ c t error, w.progress c = .returned t (.error error) →
      Run initial (events.filter fun e => e.call? ≠ some c) (w.without c)) ∧
    ∃ types : Finset τ, (∀ t, t ∈ types ↔ ∃ s, Stands events t s) ∧
      w.cache.size = types.card := by
  have hfruitless {c : ι} {t : τ} {error : SchemaError}
      (hc : w.progress c = .returned t (.error error)) : (w.progress c).IsFruitless := by
    rw [hc]
    trivial
  refine ⟨fun before e after v v' _ _ hstep hafter =>
    ⟨fun t hne => ?_, fun c t error hcall hc => ?_⟩, ?_, fun c t s => ?_,
    fun c t error hc => ?_, exists_size_of_run h⟩
  · rcases lookup?_of_step hstep t with ⟨c, s, he, hnew, hold⟩ | ⟨he, -⟩ | ⟨-, -, hsame⟩
    · refine .inr ⟨hold.resolve_right fun hold => hne (hnew.trans hold.symm), c, s, he, hnew⟩
    · exact .inl he
    · exact absurd hsame hne
  · exact (isFruitless_of_step hstep (isFruitless_of_run hafter (hfruitless hc))).2 hcall
  · rintro before e between e' after c c' t s s' rfl he he' hkept
    exact eq_of_taken h he he' hkept
  · rw [returned_iff_of_run h]
    exact or_iff_right nofun
  · have hinitial : (initial : Shared ι τ σ).without c = initial := by
      simp [without, note, initial]
    exact hinitial ▸ run_without h (hfruitless hc)

/-- Two calls for shops that race for the first schema, a third one that is late, and a call that
fails. -/
def racers : List (Event Nat String Nat) :=
  [.miss 0 "Shop", .miss 1 "Shop", .miss 2 "Shop", .build 1 "Shop" 11, .build 0 "Shop" 10,
    .publish 1 "Shop" 11, .miss 3 "TwoGeo", .publish 0 "Shop" 11, .invalidate "Shop",
    .fail 3 "TwoGeo" (.duplicateGeo "TwoGeo" "a" "b"), .build 2 "Shop" 12, .publish 2 "Shop" 12,
    .hit 4 "Shop" 12]

/-- The two that race return the same schema, the late one another, and there is one entry. -/
theorem calls_agree_racers :
    ∃ w, Run initial racers w ∧ w.progress 0 = .returned "Shop" (.ok 11) ∧
      w.progress 1 = .returned "Shop" (.ok 11) ∧ w.progress 4 = .returned "Shop" (.ok 12) ∧
      ∃ types : Finset String, (∀ t, t ∈ types ↔ ∃ s, Stands racers t s) ∧
        w.cache.size = types.card ∧ types.card = 1 := by
  have hrun : ∃ w, Run initial racers w ∧ w.cache.size = 1 :=
    ⟨_, .cons (.miss rfl rfl) <| .cons (.miss rfl rfl) <| .cons (.miss rfl rfl) <|
      .cons (.build rfl 11) <| .cons (.build rfl 10) <| .cons (.publish rfl) <|
      .cons (.miss rfl rfl) <| .cons (.publish rfl) <| .cons (.invalidate _) <|
      .cons (.fail rfl _) <| .cons (.build rfl 12) <| .cons (.publish rfl) <|
      .cons (.hit rfl rfl) <| .nil _, rfl⟩
  obtain ⟨w, hrun, hone⟩ := hrun
  obtain ⟨-, -, hreturned, -, types, htypes, hsize⟩ := calls_agree hrun
  refine ⟨w, hrun, ?_, ?_, ?_, types, htypes, hsize, hsize.symm.trans hone⟩
  · exact (hreturned 0 "Shop" 11).mpr ⟨.publish 0 "Shop" 11, by simp [racers], .inr rfl⟩
  · exact (hreturned 1 "Shop" 11).mpr ⟨.publish 1 "Shop" 11, by simp [racers], .inr rfl⟩
  · exact (hreturned 4 "Shop" 12).mpr ⟨.hit 4 "Shop" 12, by simp [racers], .inl rfl⟩

/-! ### A call alone -/

/-- **A resolve without others in between is a run of one call.** -/
theorem exists_run_resolve (hc : w.progress c = .waiting) (t : τ) (build : Except SchemaError σ) :
    ∃ events w', Run w events w' ∧ (∀ e ∈ events, e.call? = some c) ∧
      w'.cache = (w.cache.resolve t build).1 ∧
      w'.progress c = .returned t (w.cache.resolve t build).2 := by
  cases hlookup : w.cache.lookup? t with
  | some s =>
    have hresolve : w.cache.resolve t build = (w.cache, .ok s) := by simp only [resolve, hlookup]
    rw [hresolve]
    exact ⟨_, _, .cons (.hit hc hlookup) (.nil _), by simp [Event.call?], rfl,
      progress_note_self ..⟩
  | none =>
    have hmissed := progress_note_self w c (.missed t)
    cases build with
    | error e =>
      have hresolve : w.cache.resolve t (.error e) = (w.cache, .error e) := by
        simp only [resolve, hlookup]
      rw [hresolve]
      exact ⟨_, _, .cons (.miss hc hlookup) (.cons (.fail hmissed e) (.nil _)),
        by simp [Event.call?], rfl, progress_note_self ..⟩
    | ok s =>
      have hresolve : w.cache.resolve t (.ok s) =
          ((w.cache.publish t s).1, .ok (w.cache.publish t s).2) := by
        simp only [resolve, hlookup]
      rw [hresolve]
      exact ⟨_, _, .cons (.miss hc hlookup) (.cons (.build hmissed s)
        (.cons (.publish (progress_note_self ..)) (.nil _))), by simp [Event.call?], rfl,
        progress_note_self ..⟩

end Shared

end SchemaCache

end Catalog
