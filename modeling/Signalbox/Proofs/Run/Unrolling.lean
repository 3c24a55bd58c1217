import Mathlib.Tactic.SplitIfs
import Signalbox.Run.World

/-!
# Loops are their bodies repeated

A list of blocks is run as its parts are, one after the other: once the flag is cleared the first part breaks off and
the second one does not begin, so that it makes no difference where the list is cut. The rounds of a loop go on after
the flag was cleared, but then none of them does anything. So a loop does what its children would do if they stood in
its place as often as the loop counts. Only surroundings that are told which block is active can tell the two apart.

Main results:

* `Run.runBlocks_append`: a list of blocks that is cut in two.
* `Run.times_runBlocks`: rounds over a list of blocks are one long list.
* `Run.runBlocks_unrolled`: a loop among other blocks.
-/

namespace Signalbox

variable {σ : Type}

namespace Run

/-- Does one part of a run and then, unless it was halted, another one. -/
def inTurn (first second : StateM σ (Except Halt Unit)) : StateM σ (Except Halt Unit) := fun w =>
  match first w with
  | (.error halt, w') => (.error halt, w')
  | (.ok (), w') => second w'

theorem bind_apply {α β : Type} (x : StateM σ α) (next : α → StateM σ β) (w : σ) :
    (x >>= next) w = next (x w).1 (x w).2 :=
  rfl

theorem times_succ (body : StateM σ (Except Halt Unit)) (count : Nat) :
    times body (count + 1) = inTurn body (times body count) := by
  funext w
  rw [times, inTurn, bind_apply]
  rcases body w with ⟨halt | _, w'⟩ <;> rfl

variable {env : Environment σ} {w : World σ}

/-! ## Lists that are cut -/

/-- A stopped run does nothing more. -/
theorem runBlocks_of_stopped (hw : w.running = false) (patience : Nat) (blocks : List Block) :
    runBlocks env.host patience blocks w = (.ok (), w) := by
  cases blocks with
  | nil => rfl
  | cons block rest =>
    rw [runBlocks]
    show (if w.running then _ else _ : StateM (World σ) (Except Halt Unit)) w = _
    rw [hw]
    rfl

/-- The first block of a list, and then the others in the world that it leaves. -/
theorem runBlocks_of_running (hw : w.running = true) (patience : Nat) (block : Block) (rest : List Block) :
    runBlocks env.host patience (block :: rest) w =
      match runBlock env.host patience block (env.emit (.active (some block.id)) w) with
      | (.error halt, w') => (.error halt, w')
      | (.ok (), w') => runBlocks env.host patience rest (env.emit (.active none) w') := by
  have hemit : (env.host.emit (.active (some block.id)) w).2 = env.emit (.active (some block.id)) w := rfl
  rw [runBlocks]
  show (if w.running then _ else _ : StateM (World σ) (Except Halt Unit)) w = _
  rw [if_pos hw, bind_apply, bind_apply, hemit]
  -- both sides go on by how the block ends
  rcases runBlock env.host patience block (env.emit (.active (some block.id)) w) with ⟨halt | _, w'⟩ <;> rfl

/-- A list of blocks is run as its parts are, one after the other. -/
theorem runBlocks_append (env : Environment σ) (patience : Nat) (front back : List Block) :
    runBlocks env.host patience (front ++ back) =
      inTurn (runBlocks env.host patience front) (runBlocks env.host patience back) := by
  funext w
  -- in every world, since each block of the first part leaves another one to the rest
  induction front generalizing w with
  | nil => rfl
  | cons block rest ih =>
    rw [List.cons_append, inTurn]
    cases hw : w.running with
    | false =>
      -- neither part begins
      rw [runBlocks_of_stopped hw, runBlocks_of_stopped hw]
      exact (runBlocks_of_stopped hw patience back).symm
    | true =>
      rw [runBlocks_of_running hw, runBlocks_of_running hw]
      rcases runBlock env.host patience block (env.emit (.active (some block.id)) w) with ⟨halt | _, w'⟩
      · rfl
      · exact ih (env.emit (.active none) w')

/-! ## Loops -/

/-- Rounds over a list of blocks are one run of the list repeated. -/
theorem times_runBlocks (env : Environment σ) (patience : Nat) (blocks : List Block) (count : Nat) :
    times (runBlocks env.host patience blocks) count =
      runBlocks env.host patience (List.replicate count blocks).flatten := by
  induction count with
  | zero => rfl
  | succ count ih => rw [times_succ, ih, List.replicate_succ, List.flatten_cons, runBlocks_append]

/-- Without an observer an active block leaves no trace. -/
theorem emit_active_eq_self (hobserver : ∀ id, env.notices (.active id) = false) (id : Option String)
    (w : World σ) : env.emit (.active id) w = w := by
  rw [Environment.emit, hobserver]
  rfl

variable {id : String} {position : Option Position} {count : UInt32} {children : List Block}

/-- A loop that is left to itself does as many rounds as it counts, also when there is nothing in it. -/
theorem runBlock_loop (hrunner : env.runner? (.container id position (.loop count) children) = none)
    (patience : Nat) : runBlock env.host patience (.container id position (.loop count) children) =
      times (runBlocks env.host patience children) count.toNat := by
  have hhost : env.host.runner? (.container id position (.loop count) children) = none := hrunner
  rw [runBlock, hhost]
  show runContainer env.host id (.loop count) children.isEmpty (runBlocks env.host patience children) = _
  rw [runContainer]
  split_ifs with hempty
  · obtain rfl := List.isEmpty_iff.mp hempty
    rw [times_runBlocks, List.flatten_replicate_nil]
    rfl
  · rfl

/-- A loop by itself. -/
theorem runBlocks_loop (hobserver : ∀ id, env.notices (.active id) = false)
    (hrunner : env.runner? (.container id position (.loop count) children) = none) (patience : Nat) :
    runBlocks env.host patience [.container id position (.loop count) children] =
      runBlocks env.host patience (List.replicate count.toNat children).flatten := by
  funext w
  cases hw : w.running with
  | false => rw [runBlocks_of_stopped hw, runBlocks_of_stopped hw]
  | true =>
    rw [runBlocks_of_running hw, emit_active_eq_self hobserver, runBlock_loop hrunner, times_runBlocks]
    -- nobody notices that the loop was active, before its rounds or after them
    rcases runBlocks env.host patience (List.replicate count.toNat children).flatten w with ⟨halt | _, w'⟩
    · rfl
    · show runBlocks env.host patience [] (env.emit (.active none) w') = _
      rw [emit_active_eq_self hobserver]
      rfl

/-- A loop among other blocks does what its children would do if they stood there as often as it counts: in every
world the run has the same outcome and leaves the same world, with the same events and the same devices. That needs
surroundings which do not notice the active block and which have no runner for the loop itself. -/
theorem runBlocks_unrolled (hobserver : ∀ id, env.notices (.active id) = false)
    (hrunner : env.runner? (.container id position (.loop count) children) = none) (patience : Nat)
    (before after : List Block) (w : World σ) :
    runBlocks env.host patience (before ++ [.container id position (.loop count) children] ++ after) w =
      runBlocks env.host patience (before ++ (List.replicate count.toNat children).flatten ++ after) w := by
  simp only [runBlocks_append, runBlocks_loop hobserver hrunner]

/-- A loop of a message and a sleep between two other messages, where the second sleep ends the run: the third round and
the message behind the loop do not come. -/
theorem runBlocks_unrolled_brokenOff :
    let env : Environment Nat :=
      { tick := 10, maxPasses := none
        notices := fun event => match event with
          | .active _ => false
          | _ => true
        react := fun event w => match event with
          | .sleep _ => ⟨w.memory + 1, w.devices, w.memory = 1⟩
          | _ => ⟨w.memory, w.devices, false⟩
        foreign? := fun _ => none, channel := some ⟨true, true⟩ }
    let body : List Block := [.statement "m" none (.log (.text "round")), .statement "s" none (.sleep (.number (.int 0)))]
    let before : List Block := [.statement "b" none (.log (.text "before"))]
    let after : List Block := [.statement "a" none (.log (.text "after"))]
    let w : World Nat := .start 0 true .empty
    ((∀ id, env.notices (.active id) = false) ∧ env.runner? (.container "l" none (.loop 3) body) = none) ∧
      runBlocks env.host 5 (before ++ [.container "l" none (.loop 3) body] ++ after) w =
        runBlocks env.host 5 (before ++ (List.replicate 3 body).flatten ++ after) w ∧
      (runBlocks env.host 5 (before ++ (List.replicate 3 body).flatten ++ after) w).2.events.length = 5 := by
  intro env body before after w
  exact ⟨⟨fun _ => rfl, rfl⟩, runBlocks_unrolled (fun _ => rfl) rfl 5 before after w, rfl⟩

end Run

end Signalbox
