import Signalbox.Run.World

/-!
# Recorded runs

`Host.recording` is a host that keeps a list of the snapshots it has been asked for and is otherwise the host
that it is made from. So the snapshots that a run reads can be spoken of: they are in the list at its end.

`Run.Recorded` says of a computation and its recorded form that they do the same and that whatever error the
computation fails with goes with the snapshots it has read. It holds of a run when it holds of each of its
steps.

Main results:

* `Run.Recorded.bind`, `Run.Recorded.lift_bind` and `Run.Recorded.snapshot_bind`: the steps of a run.
-/

namespace Signalbox

variable {σ α β : Type}

/-- A computation that leaves the list of snapshots as it is. -/
def StateM.besideReads (x : StateM σ α) : StateM (σ × List Snapshot) α :=
  fun w => ((x w.1).1, (x w.1).2, w.2)

/-- The host that also keeps a list of the snapshots it has been asked for, the latest first. -/
def Host.recording (host : Host (StateM σ)) : Host (StateM (σ × List Snapshot)) where
  tick := host.tick
  maxPasses := host.maxPasses
  isRunning := StateM.besideReads host.isRunning
  snapshot := fun w =>
    let answer := host.snapshot w.1
    (answer.1, answer.2, answer.1 :: w.2)
  emit event := StateM.besideReads (host.emit event)
  runner? block := (host.runner? block).map StateM.besideReads

/-- The snapshots that a run of a program reads, the latest first. -/
def Run.reads (host : Host (StateM σ)) (patience : Nat) (p : Program) (w : σ) : List Snapshot :=
  (Run.execute host.recording patience p (w, [])).2.2

namespace Run

/-- The recorded form of a computation does the same, and an error of the computation goes with the snapshots
that have been read. -/
def Recorded (goesWith : RunError → List Snapshot → Prop)
    (recorded : StateM (σ × List Snapshot) (Except Halt α)) (x : StateM σ (Except Halt α)) : Prop :=
  ∀ w reads, ∃ new, recorded (w, reads) = ((x w).1, (x w).2, new ++ reads) ∧
    ∀ error, (x w).1 = .error (.failed error) → goesWith error new

namespace Recorded

variable {goesWith : RunError → List Snapshot → Prop}

theorem ok (a : α) : Recorded (σ := σ) goesWith (pure (.ok a)) (pure (.ok a)) :=
  fun _ _ => ⟨[], rfl, fun _ h => nomatch h⟩

theorem outOfPatience :
    Recorded (σ := σ) (α := α) goesWith (pure (.error .outOfPatience)) (pure (.error .outOfPatience)) :=
  fun _ _ => ⟨[], rfl, fun _ h => nomatch h⟩

/-- A failure that needs no look is recorded. -/
theorem failed {error : RunError} (h : goesWith error []) :
    Recorded (σ := σ) (α := α) goesWith (pure (.error (.failed error))) (pure (.error (.failed error))) := by
  refine fun _ _ => ⟨[], rfl, fun e he => ?_⟩
  obtain rfl : error = e := Halt.failed.inj (Except.error.inj he)
  exact h

/-- What is recorded goes with whatever is implied. -/
theorem mono {goesWith' : RunError → List Snapshot → Prop}
    {recorded : StateM (σ × List Snapshot) (Except Halt α)} {x : StateM σ (Except Halt α)}
    (h : Recorded goesWith recorded x) (hmono : ∀ error new, goesWith error new → goesWith' error new) :
    Recorded goesWith' recorded x := by
  intro w reads
  obtain ⟨new, hsame, herror⟩ := h w reads
  exact ⟨new, hsame, fun error he => hmono error new (herror error he)⟩

/-- What follows a step that reads no snapshot. -/
theorem lift_bind {x : StateM σ α} {recorded : α → StateM (σ × List Snapshot) (Except Halt β)}
    {next : α → StateM σ (Except Halt β)}
    (h : ∀ a, (∃ w, (x w).1 = a) → Recorded goesWith (recorded a) (next a)) :
    Recorded goesWith (StateM.besideReads x >>= recorded) (x >>= next) :=
  fun w reads => h (x w).1 ⟨w, rfl⟩ (x w).2 reads

/-- What follows the reading of a snapshot. -/
theorem snapshot_bind {host : Host (StateM σ)}
    {recorded : Snapshot → StateM (σ × List Snapshot) (Except Halt β)}
    {next : Snapshot → StateM σ (Except Halt β)}
    (h : ∀ s, Recorded (fun error new => goesWith error (new ++ [s])) (recorded s) (next s)) :
    Recorded goesWith (host.recording.snapshot >>= recorded) (host.snapshot >>= next) := by
  intro w reads
  obtain ⟨new, hsame, herror⟩ := h (host.snapshot w).1 (host.snapshot w).2 ((host.snapshot w).1 :: reads)
  refine ⟨new ++ [(host.snapshot w).1], ?_, herror⟩
  rw [List.append_assoc, List.singleton_append]
  exact hsame

/-- What follows a part of a run that may halt it. A halt is handed on, and no snapshot is read for that. -/
theorem bind {x' : StateM (σ × List Snapshot) (Except Halt α)} {x : StateM σ (Except Halt α)}
    {recorded : Except Halt α → StateM (σ × List Snapshot) (Except Halt β)}
    {next : Except Halt α → StateM σ (Except Halt β)}
    (hmore : ∀ error new old, goesWith error new → goesWith error (new ++ old))
    (hx : Recorded goesWith x' x)
    (hhalt : ∀ halt w reads, (next (.error halt) w).1 = .error halt ∧
      recorded (.error halt) (w, reads) = (.error halt, (next (.error halt) w).2, reads))
    (hok : ∀ a, Recorded goesWith (recorded (.ok a)) (next (.ok a))) :
    Recorded goesWith (x' >>= recorded) (x >>= next) := by
  intro w reads
  obtain ⟨first, hsame, herror⟩ := hx w reads
  -- the recorded computations follow each other like the computations
  have hrecorded : (x' >>= recorded) (w, reads) = recorded (x w).1 ((x w).2, first ++ reads) := by
    show recorded (x' (w, reads)).1 (x' (w, reads)).2 = _
    rw [hsame]
  have hnext : (x >>= next) w = next (x w).1 (x w).2 := rfl
  rw [hrecorded, hnext]
  cases hanswer : (x w).1 with
  | error halt =>
    -- handed on: nothing is read after the first computation
    obtain ⟨hnextHalt, hrecordedHalt⟩ := hhalt halt (x w).2 (first ++ reads)
    refine ⟨first, ?_, fun error he => herror error ?_⟩
    · rw [hrecordedHalt, hnextHalt]
    · obtain rfl : halt = .failed error := Except.error.inj (hnextHalt.symm.trans he)
      exact hanswer
  | ok a =>
    -- the later snapshots stand in front
    obtain ⟨second, hsecond, herrorSecond⟩ := hok a (x w).2 (first ++ reads)
    refine ⟨second ++ first, ?_, fun error he => hmore error second first (herrorSecond error he)⟩
    rw [hsecond, List.append_assoc]

end Recorded

end Run

end Signalbox
