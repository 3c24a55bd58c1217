import Signalbox.Proofs.Run.Alike

/-!
# What a run sees

The only looks at the devices are those of the conditions of ifs and waits. `Environment.looks` has them all, each
with what was seen, and with the world and the journal at that moment. A run that keeps its looks is otherwise the run
itself, so that each of them is at one of the points of the run: a part of its journal has been written, and the world
is the one after it.

`Run.Steps` says how a journal comes about, one thing after the other. What every single thing keeps holds at all
points.

Main results:

* `Environment.steps_journal`: the journal of a run comes about by steps.
* `Environment.isPoint_of_mem_looks`: a condition sees the devices as they are at a point of the run.
* `Environment.IsPoint.steps`: the points of a run are those that its steps come to.
-/

namespace Signalbox

variable {σ τ α : Type}

/-- A computation beside something that it leaves as it is. -/
def StateM.beside {κ : Type} (x : StateM τ α) : StateM (τ × κ) α :=
  fun s => ((x s.1).1, (x s.1).2, s.2)

/-- The host that also keeps the snapshots it has been asked for, in their order, each with the state in which it was
asked. -/
def Host.watching (host : Host (StateM τ)) : Host (StateM (τ × List (Snapshot × τ))) where
  tick := host.tick
  maxPasses := host.maxPasses
  isRunning := StateM.beside host.isRunning
  snapshot := fun s =>
    let answer := host.snapshot s.1
    (answer.1, answer.2, s.2 ++ [(answer.1, s.1)])
  emit event := StateM.beside (host.emit event)
  runner? block := (host.runner? block).map StateM.beside

namespace Environment

/-- The looks of a run at the devices, in their order: what is seen, the world then, and what the run has done up to
then. -/
def looks (env : Environment σ) (patience : Nat) (p : Program) (w : World σ) :
    List (Snapshot × World σ × Journal σ) :=
  (Run.executeMarking env.journaling.watching (StateM.beside Run.markPass) patience p ((w, []), [])).2.2

/-- A point of a run: what the run has done up to then, and the world then. -/
structure IsPoint (env : Environment σ) (patience : Nat) (p : Program) (w : World σ) (done : Journal σ)
    (now : World σ) : Prop where
  done_prefix : done <+: env.journal patience p w
  now_eq : now = Run.standing w done

end Environment

namespace Run

variable {env : Environment σ} {w v : World σ} {j j' : Journal σ}

/-- Something that a run does in a world. -/
inductive Step (env : Environment σ) (w : World σ) : Moment σ → Prop where
  | event (event : Event) : Step env w (env.moment event w)
  | runner {block : Block} {runner : StateM (World σ) (Except String Unit)} (h : env.runner? block = some runner) :
    Step env w ⟨.runner block, (runner w).2⟩
  | pass : Step env w ⟨.pass, w⟩

/-- A journal that is written one thing after the other, from one world to another. -/
inductive Steps (env : Environment σ) (w : World σ) : Journal σ → World σ → Prop where
  | nil : Steps env w [] w
  | concat {v : World σ} {j : Journal σ} {m : Moment σ} (h : Steps env w j v) (hstep : Step env v m) :
    Steps env w (j ++ [m]) m.world

namespace Steps

/-- Steps end where their journal does. -/
theorem eq_standing (h : Steps env w j v) : v = standing w j := by
  cases h with
  | nil => rfl
  | concat _ _ =>
    rw [standing_append]
    rfl

/-- A journal comes about by way of each of its beginnings. -/
theorem of_append (h : Steps env w (j ++ j') v) : Steps env w j (standing w j) := by
  generalize hj : j ++ j' = whole at h
  -- on the steps: what is cut off loses its last step, or there was nothing to cut off
  induction h generalizing j' with
  | nil =>
    obtain ⟨rfl, -⟩ := List.append_eq_nil_iff.mp hj
    exact .nil
  | concat hrest hstep ih =>
    rcases List.eq_nil_or_concat j' with rfl | ⟨rest, last, rfl⟩
    · rw [List.append_nil] at hj
      rw [hj, ← (hrest.concat hstep).eq_standing]
      exact .concat hrest hstep
    · rw [List.concat_eq_append, ← List.append_assoc] at hj
      exact ih (List.append_inj' hj rfl).1

/-- Each thing in a journal is a step from the world in front of it. -/
theorem step_of_append {m : Moment σ} (h : Steps env w (j ++ m :: j') v) : Step env (standing w j) m := by
  rw [List.append_cons] at h
  have hsteps := h.of_append
  generalize standing w (j ++ [m]) = after at hsteps
  generalize hj : j ++ [m] = done at hsteps
  cases hsteps with
  | nil => exact absurd hj (by simp)
  | concat hrest hstep =>
    obtain ⟨rfl, hm⟩ := List.append_inj' hj rfl
    obtain rfl := List.singleton_inj.mp hm
    rw [← hrest.eq_standing]
    exact hstep

/-- What holds at first, and is kept by everything that a run can do, holds in the end. -/
theorem keeps (h : Steps env w j v) (Q : Journal σ → World σ → Prop) (hfirst : Q [] w)
    (hstep : ∀ j v m, Q j v → Step env v m → Q (j ++ [m]) m.world) : Q j v := by
  induction h with
  | nil => exact hfirst
  | concat _ hm ih => exact hstep _ _ _ ih hm

end Steps

/-! ## Looks -/

/-- What is kept of the looks of a run that began in a world: the run has got to where it is by steps, and so it had at
each look. -/
structure Watches (env : Environment σ) (w : World σ) (looks : List (Snapshot × World σ × Journal σ))
    (now : World σ × Journal σ) : Prop where
  steps : Steps env w now.2 now.1
  seen : ∀ look ∈ looks, look.1 = look.2.1.devices ∧ Steps env w look.2.2 look.2.1 ∧ look.2.2 <+: now.2

/-- A step keeps the looks where they were taken. -/
theorem Watches.concat {looks : List (Snapshot × World σ × Journal σ)} {m : Moment σ}
    (h : Watches env w looks (v, j)) (hstep : Step env v m) : Watches env w looks (m.world, j ++ [m]) := by
  refine ⟨.concat h.steps hstep, fun look hlook => ?_⟩
  obtain ⟨hdevices, hsteps, hprefix⟩ := h.seen look hlook
  exact ⟨hdevices, hsteps, hprefix.trans (List.prefix_append _ _)⟩

/-- What is written down when something is done. -/
theorem alike_noting {doing : Doing} {step : StateM (World σ) α}
    (hstep : ∀ v, Step env v ⟨doing, (step v).2⟩) :
    StateM.Alike (fun s' s => s'.1 = s ∧ Watches env w s'.2 s) (StateM.beside (StateM.noting doing step))
      (StateM.noting doing step) := by
  rintro ⟨_, looks⟩ ⟨v, j⟩ ⟨rfl, h⟩
  exact ⟨rfl, rfl, h.concat (hstep v)⟩

/-- The host that keeps the looks is the host itself, apart from them. -/
theorem alike_watching (env : Environment σ) (w : World σ) :
    env.journaling.watching.Alike (fun s' s => s'.1 = s ∧ Watches env w s'.2 s) env.journaling where
  tick := rfl
  maxPasses := rfl
  isRunning := by
    rintro ⟨_, looks⟩ s ⟨rfl, h⟩
    exact ⟨rfl, rfl, h⟩
  snapshot := by
    rintro ⟨_, looks⟩ ⟨v, j⟩ ⟨rfl, h⟩
    refine ⟨rfl, rfl, h.steps, fun look hlook => ?_⟩
    rcases List.mem_append.mp hlook with hlook | hlook
    · exact h.seen look hlook
    · -- the look that is taken now
      obtain rfl := List.mem_singleton.mp hlook
      exact ⟨rfl, h.steps, List.prefix_refl j⟩
  emit event := alike_noting fun _ => .event event
  runner? block := by
    have hjournaling : env.journaling.runner? block = (env.runner? block).map (StateM.noting (.runner block)) := rfl
    show Option.Rel _ ((env.journaling.runner? block).map StateM.beside) (env.journaling.runner? block)
    rw [hjournaling]
    cases hrunner : env.runner? block with
    | none => exact .none
    | some runner => exact .some (alike_noting fun _ => .runner hrunner)

end Run

namespace Environment

variable {env : Environment σ} {patience : Nat} {p : Program} {w v : World σ} {j : Journal σ}

/-- A run that keeps its looks ends as the run itself does, and in the same world. -/
theorem execute_watching (env : Environment σ) (patience : Nat) (p : Program) (w : World σ) :
    Run.executeMarking env.journaling.watching (StateM.beside Run.markPass) patience p ((w, []), []) =
        ((env.execute patience p w).1, ((env.execute patience p w).2, env.journal patience p w),
          env.looks patience p w) ∧
      Run.Watches env w (env.looks patience p w) ((env.execute patience p w).2, env.journal patience p w) := by
  have hmark : StateM.Alike (fun s' s => s'.1 = s ∧ Run.Watches env w s'.2 s) (StateM.beside Run.markPass)
      Run.markPass := Run.alike_noting fun _ => .pass
  obtain ⟨hanswer, hstate, hwatches⟩ := Run.alike_executeMarking (Run.alike_watching env w) hmark patience p
    ((w, []), []) (w, []) ⟨rfl, .nil, fun _ hlook => nomatch hlook⟩
  rw [execute_journaling] at hanswer hstate hwatches
  exact ⟨Prod.ext hanswer (Prod.ext hstate rfl), hwatches⟩

/-- The journal of a run comes about by steps. -/
theorem steps_journal (env : Environment σ) (patience : Nat) (p : Program) (w : World σ) :
    Run.Steps env w (env.journal patience p w) (env.execute patience p w).2 :=
  (execute_watching env patience p w).2.steps

/-- The points of a run are those that its steps come to. -/
theorem IsPoint.steps (h : env.IsPoint patience p w j v) : Run.Steps env w j v := by
  obtain ⟨rest, hrest⟩ := h.done_prefix
  have hsteps := env.steps_journal patience p w
  rw [← hrest] at hsteps
  rw [h.now_eq]
  exact hsteps.of_append

/-- The last point of a run is the world in which it ends. -/
theorem isPoint_execute (env : Environment σ) (patience : Nat) (p : Program) (w : World σ) :
    env.IsPoint patience p w (env.journal patience p w) (env.execute patience p w).2 :=
  ⟨List.prefix_refl _, (env.steps_journal patience p w).eq_standing⟩

/-- A condition sees the devices as they are at a point of the run. -/
theorem isPoint_of_mem_looks {look : Snapshot × World σ × Journal σ} (h : look ∈ env.looks patience p w) :
    look.1 = look.2.1.devices ∧ env.IsPoint patience p w look.2.2 look.2.1 := by
  obtain ⟨hdevices, hsteps, hprefix⟩ := (execute_watching env patience p w).2.seen look h
  exact ⟨hdevices, hprefix, hsteps.eq_standing⟩

end Environment

end Signalbox
