import Catalog.Proofs.Store.Bookkeeping
import Mathlib.Logic.Relation

/-!
# Steps of a writer

Whatever a client calls, and whether or not the call succeeds, a writer goes on by few kinds of
steps. So what every step keeps is kept by all calls.

## Main definitions

* `Call`: the calls of a client, clearing included
* `Writer.Step`: what a writer does at once

## Main results

* `Writer.steps_call`: a call is steps
* `Writer.forall_of_steps`: what each step keeps is kept by steps
* `Writer.steps_runCalls`, `Writer.steps_run`: so are calls one after the other
-/

namespace Catalog

variable {σ ρ : Type}

/-- A call of a client, clearing included. -/
inductive Call (ρ : Type) where
  | operation (op : Operation ρ)
  | clear

namespace Writer

/-- What a call does to a writer, and to the source of identities. -/
def call (w : Writer) (s : Store ρ) (g : IdGenerator σ) (ids : σ) : Call ρ → Writer × σ
  | .operation op => w.perform s g ids op
  | .clear => (w.clear.1, ids)

/-- What calls do to a writer, one after the other. -/
def runCalls (w : Writer) (s : Store ρ) (g : IdGenerator σ) (ids : σ) (calls : List (Call ρ)) :
    Writer × σ :=
  calls.foldl (fun st c => st.1.call s g st.2 c) (w, ids)

theorem runCalls_cons (w : Writer) (s : Store ρ) (g : IdGenerator σ) (ids : σ) (c : Call ρ)
    (calls : List (Call ρ)) :
    w.runCalls s g ids (c :: calls) =
      (w.call s g ids c).1.runCalls s g (w.call s g ids c).2 calls := rfl

/-- What a writer does at once. A deletion is committed before anything else happens. -/
inductive Step (s : Store ρ) (g : IdGenerator σ) (w : Writer) : Writer → Prop
  | write {ids : σ} {r : ρ} {id : RecordId} {e : Entry}
      (h : (s.writeRecord g ids r).result = .ok (id, e)) : Step s g w (w.replace s id e)
  | delete (id : RecordId) : Step s g w (w.push [s.identityDeletion id]).commit
  | commit : Step s g w w.commit
  | rollback : Step s g w w.rollback
  | merge : Step s g w { w with index := w.index.merged }
  | clear : Step s g w w.clear.1

/-- Steps one after the other. -/
abbrev Steps (s : Store ρ) (g : IdGenerator σ) : Writer → Writer → Prop :=
  Relation.ReflTransGen (Step s g)

/-- **What each step keeps is kept by steps.** -/
theorem forall_of_steps {s : Store ρ} {g : IdGenerator σ} {p : Writer → Prop}
    (hstep : ∀ w w', p w → Step s g w w' → p w') {w w' : Writer} (h : p w)
    (hsteps : Steps s g w w') : p w' := by
  induction hsteps with
  | refl => exact h
  | tail _ hlast ih => exact hstep _ _ ih hlast

section

variable (w : Writer) (s : Store ρ) (g : IdGenerator σ) (ids : σ)

theorem steps_stage (r : ρ) : Steps s g w (w.stage s g ids r).1 := by
  cases hw : (s.writeRecord g ids r).result with
  | error e => rw [stage_of_error hw]
  | ok written =>
    rw [stage_of_ok hw]
    exact .single (.write hw)

theorem steps_stageAll (rs : List ρ) : Steps s g w (w.stageAll s g ids rs).1 := by
  induction rs generalizing w ids with
  | nil => exact .refl
  | cons r rs ih =>
    have hfirst := w.steps_stage s g ids r
    simp only [stageAll]
    split
    · exact hfirst
    · exact hfirst.trans (ih _ _)

theorem steps_deleteById (id : RecordId) : Steps s g w (w.deleteById s id).1 := by
  rw [deleteById]
  split
  · exact .refl
  · exact .single (.delete id)

/-- **A call is steps**, also if it fails. -/
theorem steps_call (c : Call ρ) : Steps s g w (w.call s g ids c).1 := by
  rcases c with (r | r | rs | r | id | _ | _ | _) | _
  · show Steps s g w (w.save s g ids r).1
    have hstage := w.steps_stage s g ids r
    simp only [save]
    split
    · exact hstage
    · exact hstage.tail .commit
  · exact w.steps_stage s g ids r
  · show Steps s g w (w.saveBatch s g ids rs).1
    have hstage := w.steps_stageAll s g ids rs
    simp only [saveBatch]
    split
    · exact hstage.tail .commit
    · exact hstage.tail .rollback
  · show Steps s g w (w.delete s r).1
    rw [delete]
    split
    · exact .refl
    · exact .refl
    · exact w.steps_deleteById s g _
  · exact w.steps_deleteById s g id
  · exact .single .commit
  · exact .single .rollback
  · simp only [call, perform, optimize]
    cases w.index.isListed with
    | true => exact .single .merge
    | false => exact .refl
  · exact .single .clear

/-- **Calls one after the other are steps.** -/
theorem steps_runCalls (calls : List (Call ρ)) : Steps s g w (w.runCalls s g ids calls).1 := by
  induction calls generalizing w ids with
  | nil => exact .refl
  | cons c calls ih =>
    rw [runCalls_cons]
    exact (w.steps_call s g ids c).trans (ih _ _)

theorem steps_run (ops : List (Operation ρ)) : Steps s g w (w.run s g ids ops).1 := by
  induction ops generalizing w ids with
  | nil => exact .refl
  | cons op ops ih =>
    rw [run_cons]
    exact (w.steps_call s g ids (.operation op)).trans (ih _ _)

end

end Writer

end Catalog
