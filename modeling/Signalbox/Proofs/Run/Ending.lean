import Signalbox.Proofs.Run.Patience
import Signalbox.Proofs.Run.Stopping

/-!
# Runs that are told to end

Nothing bounds how often a wait looks at the devices or a forever container is passed over, and loops multiply what is
inside them. Still a run ends when a clock clears its flag: every round of a wait and every pass sleeps once, and the
flag is looked at before the next one. `World.InTime` is the invariant that carries the argument, namely that the flag
is only set while the run has slept less often than the limit. A part of a run keeps it, and sleeps up to the limit at
most; the sleep before the pass that does not come may be one more.

Main results:

* `Run.Goes.inTime`: what every part of a run keeps.
* `Run.GoesRun.sleeps_le`: how often a run sleeps.
* `Environment.exists_execute_eq_of_stopsAt`: a run ends however much patience there is, and how often it has slept.
-/

namespace Signalbox

variable {σ : Type}

/-- The surroundings clear the flag in the sleep of this number, counted from one, and in every later one. They may
clear it earlier as well. -/
structure Environment.StopsAt (env : Environment σ) (n : Nat) : Prop where
  notices : ∀ length, env.notices (.sleep length) = true
  stops : ∀ length w, n ≤ w.sleeps → (env.react (.sleep length) w).stops = true

/-- A clock that stops a run by some sleep stops it by any later one. -/
theorem Environment.StopsAt.mono {env : Environment σ} {n limit : Nat} (h : env.StopsAt n) (hle : n ≤ limit) :
    env.StopsAt limit :=
  ⟨h.notices, fun length w hw => h.stops length w (Nat.le_trans hle hw)⟩

/-- The flag is set only as long as the run has slept less often than this. -/
def World.InTime (limit : Nat) (w : World σ) : Prop :=
  w.running = true → w.sleeps < limit

namespace Run

variable {env : Environment σ} {limit : Nat} {stage : Stage} {w w' : World σ} {j : Journal σ}

/-! ## Events -/

/-- A sleep is counted. -/
theorem sleeps_emit_sleep (h : env.StopsAt limit) (length : Nat) (w : World σ) :
    (env.emit (.sleep length) w).sleeps = w.sleeps + 1 := by
  rw [sleeps_emit, h.notices]
  rfl

/-- An active block is no sleep. -/
theorem sleeps_emit_active (env : Environment σ) (id : Option String) (w : World σ) :
    (env.emit (.active id) w).sleeps = w.sleeps := by
  rw [sleeps_emit]
  simp [Event.isSleep]

/-- An event is at most one sleep. -/
theorem sleeps_emit_le (env : Environment σ) (event : Event) (w : World σ) :
    (env.emit event w).sleeps ≤ w.sleeps + 1 := by
  rw [sleeps_emit]
  split_ifs <;> omega

/-- The flag is cleared in time, in the sleep that reaches the limit. -/
theorem inTime_emit (h : env.StopsAt limit) (event : Event) (hw : w.InTime limit) : (env.emit event w).InTime limit := by
  intro hrunning
  -- the run was going on before, since an event never sets it going again
  have hbefore : w.sleeps < limit := by
    refine hw ?_
    by_contra hstopped
    rw [running_emit (Bool.eq_false_iff.mpr hstopped) env event] at hrunning
    cases hrunning
  cases event with
  | sleep length =>
    rw [sleeps_emit_sleep h]
    by_contra hlimit
    -- at the limit the clock would have stopped the run
    have hstops := h.stops length { w with past := .sleep length :: w.past } (by
      show limit ≤ (Event.sleep length :: w.past).countP Event.isSleep
      rw [List.countP_cons_of_pos rfl]
      exact Nat.not_lt.mp hlimit)
    rw [Environment.emit, if_pos (h.notices length)] at hrunning
    simp only [hstops, Bool.not_true, Bool.and_false, Bool.false_eq_true] at hrunning
  | _ =>
    rw [sleeps_emit]
    simpa [Event.isSleep] using hbefore

/-- A runner does not sleep, so a run that was in time is in time after it. -/
theorem inTime_runner {block : Block} {runner : StateM (World σ) (Except String Unit)}
    (hrunner : env.runner? block = some runner) (hw : w.InTime limit) : (runner w).2.InTime limit := by
  intro hrunning
  rw [sleeps_runner hrunner]
  refine hw ?_
  by_contra hstopped
  rw [running_runner hrunner (Bool.eq_false_iff.mpr hstopped)] at hrunning
  cases hrunning

/-! ## Parts of a run -/

/-- How often a run may have slept when a part of it begins. A block and a wait begin while the flag is set, or in the
event that clears it. -/
def Stage.Ready (limit : Nat) (w : World σ) : Stage → Prop
  | .blocks _ | .times .. => w.sleeps ≤ limit
  | .block _ | .poll .. => w.sleeps < limit

/-- A part of a run that begins in time ends in time, and the run has then slept up to the limit at most. -/
theorem Goes.inTime (h : env.StopsAt limit) {outcome : Except Halt Unit} (hgoes : Goes env stage w j outcome w')
    (hw : w.InTime limit) (hready : stage.Ready limit w) : w'.InTime limit ∧ w'.sleeps ≤ limit := by
  induction hgoes with
  | nil | stopped | zero => exact ⟨hw, hready⟩
  | fail | outOfPatience => exact ⟨hw, Nat.le_of_lt hready⟩
  | @halted block _ w _ _ _ hrunning _ ih =>
    refine ih (inTime_emit h _ hw) ?_
    show (env.emit _ w).sleeps < limit
    rw [sleeps_emit_active]
    exact hw hrunning
  | @next block _ w w₁ _ _ _ _ hrunning _ _ ihBlock ihRest =>
    have hready₁ : (Stage.block block).Ready limit (env.emit (.active (some block.id)) w) := by
      show (env.emit _ w).sleeps < limit
      rw [sleeps_emit_active]
      exact hw hrunning
    obtain ⟨hw₁, hle⟩ := ihBlock (inTime_emit h _ hw) hready₁
    refine ihRest (inTime_emit h _ hw₁) ?_
    show (env.emit _ w₁).sleeps ≤ limit
    rw [sleeps_emit_active]
    exact hle
  | @runner _ w _ hcourse =>
    have hrunner := runner?_of_course hcourse
    refine ⟨inTime_runner hrunner hw, ?_⟩
    rw [sleeps_runner hrunner]
    exact Nat.le_of_lt hready
  | event => exact ⟨inTime_emit h _ hw, Nat.le_trans (sleeps_emit_le env _ _) hready⟩
  | children _ _ ih => exact ih hw (Nat.le_of_lt hready)
  | poll _ _ ih => exact ih hw hready
  | timesHalted _ ih => exact ih hw hready
  | timesNext _ _ ihBlocks ihRest =>
    obtain ⟨hw₁, hle⟩ := ihBlocks hw hready
    exact ihRest hw₁ hle
  | pollFails | pollEnds => exact ⟨inTime_emit h _ hw, Nat.le_trans (sleeps_emit_le env _ _) hready⟩
  | pollAgain _ hrunning _ ih =>
    -- the flag is still set, so that the limit has not been reached
    have hw₁ := inTime_emit h (.sleep env.tick) hw
    exact ih hw₁ (hw₁ hrunning)

/-! ## Programs -/

/-- The passes sleep at most once more than the clock allows. -/
theorem GoesPasses.sleeps_le (h : env.StopsAt limit) {blocks : List Block} {begun : Nat} {outcome : Except Halt Nat}
    (hgoes : GoesPasses env blocks begun w j outcome w') (hw : w.InTime limit) (hle : w.sleeps ≤ limit) :
    w'.sleeps ≤ limit + 1 := by
  induction hgoes with
  | empty | stopped | outOfPatience => exact Nat.le_succ_of_le hle
  | halted _ hblocks | last _ hblocks _ => exact Nat.le_succ_of_le (hblocks.inTime h hw hle).2
  | @next _ _ w₁ _ _ _ _ _ hblocks _ hrest ih =>
    obtain ⟨hw₁, hle₁⟩ := hblocks.inTime h hw hle
    have hw₂ := inTime_emit h (.sleep env.tick) hw₁
    by_cases hrunning : (env.emit (.sleep env.tick) w₁).running = true
    · exact ih hw₂ (Nat.le_of_lt (hw₂ hrunning))
    · -- no further pass comes after this sleep
      obtain ⟨-, rfl, -⟩ := hrest.of_stopped (Bool.eq_false_iff.mpr hrunning)
      rw [sleeps_emit_sleep h]
      exact Nat.succ_le_succ hle₁

/-- A run that begins in time sleeps up to the limit, and once more at most before a pass that does not come. -/
theorem GoesRun.sleeps_le (h : env.StopsAt limit) {p : Program} {outcome : Except Halt RunSummary}
    (hgoes : GoesRun env p w j outcome w') (hw : w.InTime limit) (hle : w.sleeps ≤ limit) :
    w'.sleeps ≤ limit + 1 := by
  have hprogram {outcome : Except Halt RunSummary} {w' : World σ} {j : Journal σ}
      (hgoes : GoesProgram env p w j outcome w') : w'.sleeps ≤ limit + 1 := by
    cases hgoes with
    | onceHalted honce => exact Nat.le_succ_of_le (honce.inTime h hw hle).2
    | foreverHalted honce hforever | ends honce hforever =>
      obtain ⟨hw₁, hle₁⟩ := honce.inTime h hw hle
      exact hforever.sleeps_le h hw₁ hle₁
  cases hgoes with
  | ends hgoes | outOfPatience hgoes => exact hprogram hgoes
  | failed hgoes =>
    rw [sleeps_emit_active]
    exact hprogram hgoes

end Run

/-- When a clock clears the flag in the sleep with some number and in every later one, the run ends: with a summary or
with an error, in one and the same world however much patience there is from a bound on, and after at most one sleep
more than that number. The flag may be cleared earlier at any event, and when the number is zero it is cleared in the
first sleep. -/
theorem Environment.exists_execute_eq_of_stopsAt {env : Environment σ} {n : Nat} (h : env.StopsAt n) (p : Program)
    (memory : σ) (running : Bool) (devices : Snapshot) :
    ∃ outcome w', (∀ patience, max n 1 + 1 < patience →
        env.execute patience p (.start memory running devices) = (outcome, w')) ∧
      outcome ≠ .error .outOfPatience ∧ w'.events.countP Event.isSleep ≤ max n 1 + 1 := by
  have hlimit : env.StopsAt (max n 1) := h.mono (Nat.le_max_left n 1)
  let w : World σ := .start memory running devices
  have hzero : w.sleeps = 0 := rfl
  have hpos : 0 < max n 1 := Nat.lt_of_lt_of_le Nat.one_pos (Nat.le_max_right n 1)
  have hsleeps (patience : Nat) : (env.execute patience p w).2.sleeps ≤ max n 1 + 1 := by
    refine (env.goes_execute patience p w).sleeps_le hlimit (fun _ => ?_) ?_
    · rwa [hzero]
    · rw [hzero]
      exact Nat.zero_le _
  -- to be out of patience, the run would have to have slept too often
  have hends (patience : Nat) (hpatience : max n 1 + 1 < patience) :
      (env.execute patience p w).1 ≠ .error .outOfPatience := by
    intro hout
    have hmany := sleeps_of_outOfPatience h.notices hout
    have hfew := hsleeps patience
    omega
  refine ⟨(env.execute (max n 1 + 2) p w).1, (env.execute (max n 1 + 2) p w).2, fun patience hpatience => ?_,
    hends _ (Nat.lt_succ_self _), ?_⟩
  · exact env.execute_of_le hpatience p w (hends _ (Nat.lt_succ_self _))
  · rw [World.countP_isSleep_events]
    exact hsleeps _

/-- A wait for a device that never moves, inside loops inside a forever container, with ticks of no length and a clock
that clears the flag in the third sleep. -/
theorem Environment.exists_execute_eq_of_stopsAt_idleDevice :
    let p : Program := ⟨[.container "main" none .forever [.container "outer" none (.loop 1000)
      [.container "inner" none (.loop 1000) [.statement "w" none (.wait "A:speed > 0")]]]]⟩
    let env : Environment Unit :=
      { tick := 0, maxPasses := none, notices := fun _ => true
        react := fun event w => ⟨(), w.devices, event.isSleep && decide (3 ≤ w.sleeps)⟩
        foreign? := fun _ => none, channel := none }
    let devices : Snapshot := Snapshot.empty.apply ⟨"A", "speed", .number (.int 0)⟩
    env.StopsAt 3 ∧ ∃ outcome w', (∀ patience, 4 < patience →
        env.execute patience p (.start () true devices) = (outcome, w')) ∧
      outcome ≠ .error .outOfPatience ∧ w'.events.countP Event.isSleep ≤ 4 := by
  intro p env devices
  -- the clock clears the flag in the third sleep
  have hstops : env.StopsAt 3 := by
    refine ⟨fun _ => rfl, fun length w hw => ?_⟩
    show (true && decide (3 ≤ w.sleeps)) = true
    rw [Bool.true_and, decide_eq_true hw]
  exact ⟨hstops, exists_execute_eq_of_stopsAt hstops p () true devices⟩

end Signalbox
