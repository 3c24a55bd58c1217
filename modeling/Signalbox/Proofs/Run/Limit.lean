import Signalbox.Proofs.Run.Stopping

/-!
# Runs with a limit of passes

The limit is looked at when a pass has ended, before the tick that separates it from the next one. So a pass is begun
whatever the limit is, and a limit of zero is one of one. Up to there the limit is kept to: the passes of a run are
never more, and a run that ends with its flag set has made exactly as many.

A flag that is set when the passes end was set when they began (`Run.GoesPasses.running_of_running`), so that no pass was
broken off on the way. `Run.RunsThrough` and `Run.PassesThrough` say what is left: every block of the list in its order,
and one pass after the other with a tick between two of them.

Main results:

* `Run.GoesPasses.countP_isPass_le`: the passes that are begun, however the run ends.
* `Run.GoesPasses.passesThrough`: the passes of a run that ends with its flag set.
* `Environment.passes_of_execute`: a run of a program with a limit.
-/

namespace Signalbox

variable {σ : Type}

namespace Run

/-- The blocks of a list are run from the first to the last. Each begins while the flag is set and ends without an
error, and nothing is done between the end of one and the beginning of the next. -/
inductive RunsThrough (env : Environment σ) : List Block → World σ → Journal σ → World σ → Prop where
  | nil (w : World σ) : RunsThrough env [] w [] w
  | cons {block : Block} {rest : List Block} {w w₁ w' : World σ} {j j' : Journal σ} (h : w.running = true)
    (hblock : Goes env (.block block) (env.emit (.active (some block.id)) w) j (.ok ()) w₁)
    (hrest : RunsThrough env rest (env.emit (.active none) w₁) j' w') :
    RunsThrough env (block :: rest) w
      (env.moment (.active (some block.id)) w :: (j ++ env.moment (.active none) w₁ :: j')) w'

/-- A number of passes, each of them over the whole list, with one tick of sleep between two passes and none after the
last. -/
inductive PassesThrough (env : Environment σ) (blocks : List Block) :
    Nat → World σ → Journal σ → World σ → Prop where
  | last {w w' : World σ} {j : Journal σ} (hpass : RunsThrough env blocks w j w') :
    PassesThrough env blocks 1 w (⟨.pass, w⟩ :: j) w'
  | next {count : Nat} {w w₁ w' : World σ} {j j' : Journal σ} (hpass : RunsThrough env blocks w j w₁)
    (hrest : PassesThrough env blocks count (env.emit (.sleep env.tick) w₁) j' w') :
    PassesThrough env blocks (count + 1) w (⟨.pass, w⟩ :: (j ++ env.moment (.sleep env.tick) w₁ :: j')) w'

variable {env : Environment σ} {stage : Stage} {blocks : List Block} {w w' : World σ} {j : Journal σ}

/-! ## A flag that is still set -/

/-- An event does not set the flag. -/
theorem running_of_running_emit {event : Event} (h : (env.emit event w).running = true) : w.running = true := by
  by_contra hw
  rw [running_emit (Bool.eq_false_iff.mpr hw)] at h
  cases h

/-- A list of blocks that ends with the flag set was run from the first block to the last. -/
theorem Goes.runsThrough {outcome : Except Halt Unit} (hgoes : Goes env (.blocks blocks) w j outcome w')
    (hok : outcome = .ok ()) (h : w'.running = true) : RunsThrough env blocks w j w' := by
  -- along the list: the rest begins in the world that the first block leaves
  induction blocks generalizing w j with
  | nil =>
    cases hgoes with
    | nil | stopped => exact .nil _
  | cons block rest ih =>
    cases hgoes with
    | stopped hstopped =>
      rw [h] at hstopped
      cases hstopped
    | halted => cases hok
    | next hrunning hblock hrest => exact .cons hrunning hblock (ih hrest)

/-! ## Passes -/

/-- A flag that is set after some passes was set before them. -/
theorem GoesPasses.running_of_running {begun : Nat} {outcome : Except Halt Nat}
    (hgoes : GoesPasses env blocks begun w j outcome w') (h : w'.running = true) : w.running = true := by
  by_contra hw
  obtain ⟨-, rfl, -⟩ := hgoes.of_stopped (Bool.eq_false_iff.mpr hw)
  exact hw h

section

variable {limit : Nat} (hlimit : env.maxPasses = some limit)

include hlimit

/-- Passes are begun up to the limit, however they end, and one is begun whatever the limit is. -/
theorem GoesPasses.countP_isPass_le {begun : Nat} {outcome : Except Halt Nat}
    (hgoes : GoesPasses env blocks begun w j outcome w') :
    begun + j.countP (·.doing.isPass) ≤ max limit (begun + 1) := by
  induction hgoes with
  | empty | stopped | outOfPatience => exact Nat.le_trans (Nat.le_succ _) (Nat.le_max_right _ _)
  | halted _ hblocks | last _ hblocks _ =>
    rw [List.countP_cons_of_pos rfl, hblocks.countP_isPass]
    exact Nat.le_max_right _ _
  | @next begun _ w₁ _ j j' _ _ hblocks hmore _ ih =>
    -- another pass follows because the limit has not been reached
    rw [hlimit, Option.any_some, decide_eq_false_iff_not] at hmore
    have hsleep : (env.moment (.sleep env.tick) w₁ :: j').countP (·.doing.isPass) = j'.countP (·.doing.isPass) :=
      rfl
    rw [List.countP_cons_of_pos rfl, List.countP_append, hblocks.countP_isPass, hsleep]
    omega

/-- Passes that end with the flag set have reached the limit, and each of them went over the whole list. -/
theorem GoesPasses.passesThrough {begun n : Nat} {outcome : Except Halt Nat}
    (hgoes : GoesPasses env blocks begun w j outcome w') (hok : outcome = .ok n) (hblocks : blocks ≠ [])
    (h : w'.running = true) :
    n = max limit (begun + 1) ∧ PassesThrough env blocks (n - begun) w j w' := by
  induction hgoes with
  | empty hempty => exact absurd hempty hblocks
  | stopped hstopped =>
    rw [h] at hstopped
    cases hstopped
  | outOfPatience | halted => cases hok
  | @last begun _ _ _ _ hpass hreached =>
    -- the limit was reached by this pass, so that it is not larger than the passes up to here
    obtain rfl := Except.ok.inj hok
    rw [hlimit, Option.any_some, decide_eq_true_iff] at hreached
    refine ⟨(Nat.max_eq_right hreached).symm, ?_⟩
    rw [Nat.add_sub_cancel_left]
    exact .last (hpass.runsThrough rfl h)
  | @next begun _ _ _ _ _ _ _ hpass hmore hrest ih =>
    rw [hlimit, Option.any_some, decide_eq_false_iff_not] at hmore
    obtain ⟨hn, hthrough⟩ := ih hok h
    -- the flag was set in the tick, and so it was at the end of this pass
    have hrunning := running_of_running_emit (hrest.running_of_running h)
    refine ⟨by omega, ?_⟩
    rw [show n - begun = n - (begun + 1) + 1 by omega]
    exact .next (hpass.runsThrough rfl hrunning) hthrough

/-- The passes of a program are begun up to the limit, however it ends. -/
theorem GoesProgram.countP_isPass_le {p : Program} {outcome : Except Halt RunSummary}
    (hgoes : GoesProgram env p w j outcome w') : j.countP (·.doing.isPass) ≤ max limit 1 := by
  cases hgoes with
  | onceHalted honce =>
    rw [honce.countP_isPass]
    exact Nat.zero_le _
  | foreverHalted honce hforever | ends honce hforever =>
    rw [List.countP_append, honce.countP_isPass]
    exact hforever.countP_isPass_le hlimit

/-- A run begins no more passes than the limit, and one where the limit is zero. -/
theorem GoesRun.countP_isPass_le {p : Program} {outcome : Except Halt RunSummary}
    (hgoes : GoesRun env p w j outcome w') : j.countP (·.doing.isPass) ≤ max limit 1 := by
  cases hgoes with
  | ends hprogram | outOfPatience hprogram => exact hprogram.countP_isPass_le hlimit
  | failed hprogram =>
    -- the last word of a failure is no pass
    rw [List.countP_append]
    exact hprogram.countP_isPass_le hlimit

end

end Run

/-- A run with a limit begins passes up to the limit, and one if the limit is zero; this holds of runs that fail and of
runs that are out of patience, too. If it ends with a summary and was not cancelled, it has run the once container from
the first block to the last and has then made exactly that many passes, each of them over the children of the forever
container from the first to the last, with one tick of sleep between two passes and none after the last. -/
theorem Environment.passes_of_execute {env : Environment σ} {limit : Nat} (hlimit : env.maxPasses = some limit)
    {p : Program} (hforever : Run.childrenOf p .forever ≠ []) (patience : Nat) (w : World σ) :
    (env.journal patience p w).countP (·.doing.isPass) ≤ max limit 1 ∧
      ∀ summary, (env.execute patience p w).1 = .ok summary → summary.cancelled = false →
        summary.foreverPasses = max limit 1 ∧
        ∃ setup passes w₁, env.journal patience p w = setup ++ passes ∧
          Run.RunsThrough env (Run.childrenOf p .once) w setup w₁ ∧
          Run.PassesThrough env (Run.childrenOf p .forever) (max limit 1) w₁ passes (env.execute patience p w).2 := by
  have hgoes := env.goes_execute patience p w
  refine ⟨hgoes.countP_isPass_le hlimit, fun summary hsummary hcancelled => ?_⟩
  rw [hsummary] at hgoes
  generalize env.journal patience p w = j at hgoes
  cases hgoes with
  | ends hprogram =>
    -- a summary that says nothing of a cancellation says that the flag is set
    have hrunning : (env.execute patience p w).2.running = true := by
      rw [hprogram.countP_isPass.2, Bool.not_eq_false'] at hcancelled
      exact hcancelled
    cases hprogram with
    | @ends w₁ _ setup passes begun honce hpasses =>
      obtain ⟨hbegun, hthrough⟩ := hpasses.passesThrough hlimit rfl hforever hrunning
      refine ⟨hbegun, setup, passes, w₁, rfl,
        honce.runsThrough rfl (hpasses.running_of_running hrunning), ?_⟩
      rw [← show begun = max limit 1 from hbegun]
      exact hthrough

/-- A limit of zero, and one pass: the block of the forever container runs once. -/
theorem Environment.passes_of_execute_limitZero :
    let p : Program := ⟨[.container "f" none .forever [.statement "t" none (.log (.number (.int 1)))]]⟩
    let env : Environment Unit :=
      { tick := 10, maxPasses := some 0, notices := fun _ => true, react := fun _ w => ⟨(), w.devices, false⟩
        foreign? := fun _ => none, channel := none }
    let w : World Unit := .start () true .empty
    (env.maxPasses = some 0 ∧ Run.childrenOf p .forever ≠ []) ∧
      (env.execute 1 p w).1 = .ok ⟨false, 1, false⟩ ∧
      (env.journal 1 p w).countP (·.doing.isPass) ≤ max 0 1 ∧
      ∀ summary, (env.execute 1 p w).1 = .ok summary → summary.cancelled = false →
        summary.foreverPasses = max 0 1 ∧
        ∃ setup passes w₁, env.journal 1 p w = setup ++ passes ∧
          Run.RunsThrough env (Run.childrenOf p .once) w setup w₁ ∧
          Run.PassesThrough env (Run.childrenOf p .forever) (max 0 1) w₁ passes (env.execute 1 p w).2 := by
  intro p env w
  have hforever : Run.childrenOf p .forever ≠ [] := List.cons_ne_nil _ _
  exact ⟨⟨rfl, hforever⟩, rfl, passes_of_execute rfl hforever 1 w⟩

end Signalbox
