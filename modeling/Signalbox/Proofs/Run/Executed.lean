import Signalbox.Proofs.Run.Brackets
import Signalbox.Proofs.Run.Delivery
import Signalbox.Proofs.Run.Failure

/-!
# Executed blocks

A journal tells which device-set blocks a run has executed. `Run.Executed` says which these are: each of them begins and
hands its command over right then, once, and no other block hands one over. `Run.ExecutedSoFar` says so of a part of a
journal, which may end with a block that has only begun, or whose command nobody has taken.

Main results:

* `Run.Goes.executes`: the device-set blocks that a part of a run executes are among those that begin in it.
* `Run.GoesRun.executed`: the device-set blocks that a run of a program executes.
* `Run.ExecutedSoFar.of_append`: those that are executed when only a part of the journal has been written.
-/

namespace Signalbox

variable {σ : Type}

namespace Run

variable {env : Environment σ} {channel : Channel} {w w' : World σ} {j : Journal σ}

/-- What is neither the beginning of a block nor done by a runner. -/
def Neutral : Doing → Prop
  | .runner _ | .event (.active (some _)) => False
  | _ => True

/-- A neutral moment is no command. -/
theorem command?_of_neutral {doing : Doing} (h : Neutral doing) : command? doing = none := by
  cases doing with
  | runner block => exact h.elim
  | event event => rfl
  | pass => rfl

/-- A run does these things, in which blocks of a list begin. Each device-set block among them hands over its command
right after it has begun, and no other block hands one over. The commands are those of the device-set blocks. -/
inductive Executed (blocks : List Block) : List Doing → List DeviceCommand → Prop where
  | nil : Executed blocks [] []
  | other {doing : Doing} {rest : List Doing} {commands : List DeviceCommand} (h : Neutral doing)
    (hrest : Executed blocks rest commands) : Executed blocks (doing :: rest) commands
  | begins {block : Block} {rest : List Doing} {commands : List DeviceCommand} (hmem : block ∈ blocks)
    (hother : ∀ command, ¬ block.Writes command) (hrest : Executed blocks rest commands) :
    Executed blocks (.event (.active (some block.id)) :: rest) commands
  | writes {block : Block} {command : DeviceCommand} {rest : List Doing} {commands : List DeviceCommand}
    (hmem : block ∈ blocks) (hwrites : block.Writes command) (hrest : Executed blocks rest commands) :
    Executed blocks (.event (.active (some block.id)) :: .runner block :: rest) (command :: commands)

/-- The device-set blocks executed so far, and their commands. One that has only begun is not among them, nor one whose
command was not taken: the run ends with that block. -/
inductive ExecutedSoFar (blocks : List Block) : List Doing → List DeviceCommand → Prop where
  | executed {done : List Doing} {commands : List DeviceCommand} (h : Executed blocks done commands) :
    ExecutedSoFar blocks done commands
  | begun {done : List Doing} {commands : List DeviceCommand} {block : Block} {command : DeviceCommand}
    (h : Executed blocks done commands) (hmem : block ∈ blocks) (hwrites : block.Writes command) :
    ExecutedSoFar blocks (done ++ [.event (.active (some block.id))]) commands
  | refused {done last : List Doing} {commands : List DeviceCommand} {block : Block} {command : DeviceCommand}
    (h : Executed blocks done commands) (hmem : block ∈ blocks) (hwrites : block.Writes command)
    (hlast : last = [] ∨ last = [.event (.active none)]) :
    ExecutedSoFar blocks (done ++ .event (.active (some block.id)) :: .runner block :: last) commands

namespace Executed

variable {blocks blocks' : List Block} {done done' : List Doing} {commands commands' : List DeviceCommand}

theorem mono (h : Executed blocks done commands) (hsub : blocks ⊆ blocks') : Executed blocks' done commands := by
  induction h with
  | nil => exact .nil
  | other hneutral _ ih => exact .other hneutral ih
  | begins hmem hother _ ih => exact .begins (hsub hmem) hother ih
  | writes hmem hwrites _ ih => exact .writes (hsub hmem) hwrites ih

theorem append (h : Executed blocks done commands) (h' : Executed blocks done' commands') :
    Executed blocks (done ++ done') (commands ++ commands') := by
  induction h with
  | nil => exact h'
  | other hneutral _ ih => exact .other hneutral ih
  | begins hmem hother _ ih => exact .begins hmem hother ih
  | writes hmem hwrites _ ih => exact .writes hmem hwrites ih

/-- The commands are those that are handed over. -/
theorem commands_eq (h : Executed blocks done commands) : commands = done.filterMap command? := by
  induction h with
  | nil => rfl
  | other hneutral _ ih => rw [List.filterMap_cons_none (command?_of_neutral hneutral), ih]
  | begins _ _ _ ih => exact ih
  | @writes block command rest commands _ hwrites _ ih =>
    have hsome : command? (.runner block) = some command := DeviceCommand.ofBlock?_eq_some_iff.mpr hwrites
    rw [List.filterMap_cons_none rfl, List.filterMap_cons_some hsome, ih]

/-- What a runner runs is a device-set block that has just begun. -/
theorem of_append_runner {block : Block} {after : List Doing}
    (h : Executed blocks (done ++ .runner block :: after) commands) :
    ∃ before earlier command, done = before ++ [.event (.active (some block.id))] ∧
      Executed blocks before earlier ∧ block ∈ blocks ∧ block.Writes command := by
  generalize hwhole : done ++ .runner block :: after = whole at h
  induction h generalizing done with
  | nil => simp at hwhole
  | other hneutral _ ih =>
    cases done with
    | nil =>
      obtain ⟨rfl, -⟩ := List.cons.inj hwhole
      exact hneutral.elim
    | cons first done =>
      obtain ⟨rfl, hrest⟩ := List.cons.inj hwhole
      obtain ⟨before, earlier, command, rfl, hbefore, hfound⟩ := ih hrest
      exact ⟨first :: before, earlier, command, rfl, .other hneutral hbefore, hfound⟩
  | begins hmem hother _ ih =>
    cases done with
    | nil => cases (List.cons.inj hwhole).1
    | cons first done =>
      obtain ⟨rfl, hrest⟩ := List.cons.inj hwhole
      obtain ⟨before, earlier, command, rfl, hbefore, hfound⟩ := ih hrest
      exact ⟨_ :: before, earlier, command, rfl, .begins hmem hother hbefore, hfound⟩
  | @writes _ written _ _ hmem hwrites _ ih =>
    match done with
    | [] => cases (List.cons.inj hwhole).1
    | [first] =>
      -- this is the runner of the block that has begun
      obtain ⟨rfl, rfl, -⟩ : _ ∧ _ ∧ _ := by simpa using hwhole
      exact ⟨[], [], written, rfl, .nil, hmem, hwrites⟩
    | first :: second :: done =>
      obtain ⟨rfl, rfl, hrest⟩ : _ ∧ _ ∧ _ := by simpa using hwhole
      obtain ⟨before, earlier, command, rfl, hbefore, hfound⟩ := ih hrest
      exact ⟨_ :: _ :: before, written :: earlier, command, rfl, .writes hmem hwrites hbefore, hfound⟩

end Executed

namespace ExecutedSoFar

variable {blocks : List Block} {done done' : List Doing} {commands commands' : List DeviceCommand}

/-- What comes behind blocks that have been executed. -/
theorem after (h : Executed blocks done commands) (h' : ExecutedSoFar blocks done' commands') :
    ExecutedSoFar blocks (done ++ done') (commands ++ commands') := by
  cases h' with
  | executed h' => exact .executed (h.append h')
  | begun h' hmem hwrites =>
    rw [← List.append_assoc]
    exact .begun (h.append h') hmem hwrites
  | refused h' hmem hwrites hlast =>
    rw [← List.append_assoc]
    exact .refused (h.append h') hmem hwrites hlast

/-- When only a part of what is done has been done, the commands are those that were handed over in this part. -/
theorem of_append (h : Executed blocks (done ++ done') commands) :
    ExecutedSoFar blocks done (done.filterMap command?) := by
  generalize hwhole : done ++ done' = whole at h
  induction h generalizing done with
  | nil =>
    obtain ⟨rfl, -⟩ := List.append_eq_nil_iff.mp hwhole
    exact .executed .nil
  | other hneutral _ ih =>
    cases done with
    | nil => exact .executed .nil
    | cons first done =>
      obtain ⟨rfl, hrest⟩ := List.cons.inj hwhole
      rw [List.filterMap_cons_none (command?_of_neutral hneutral)]
      exact after (.other hneutral .nil) (ih hrest)
  | begins hmem hother _ ih =>
    cases done with
    | nil => exact .executed .nil
    | cons first done =>
      obtain ⟨rfl, hrest⟩ := List.cons.inj hwhole
      rw [List.filterMap_cons_none rfl]
      exact after (.begins hmem hother .nil) (ih hrest)
  | @writes block command _ _ hmem hwrites _ ih =>
    -- the part may end between the beginning of a device-set block and its runner
    match done with
    | [] => exact .executed .nil
    | [first] =>
      obtain ⟨rfl, -⟩ := List.cons.inj hwhole
      exact .begun .nil hmem hwrites
    | first :: second :: done =>
      obtain ⟨rfl, rfl, hrest⟩ : _ ∧ _ ∧ _ := by simpa using hwhole
      have hsome : command? (.runner block) = some command := DeviceCommand.ofBlock?_eq_some_iff.mpr hwrites
      rw [List.filterMap_cons_none rfl, List.filterMap_cons_some hsome]
      exact after (.writes hmem hwrites .nil) (ih hrest)

end ExecutedSoFar

/-- What a part of a run does. A block that has begun is a device-set block and hands over its command, or others begin
inside it. -/
def Stage.Executes : Stage → List Doing → Prop
  | .blocks forest, done | .times _ forest, done => ∃ commands, Executed (Block.preorderIn forest) done commands
  | .block root, done =>
    (∃ command, root.Writes command ∧ done = [.runner root]) ∨
      ((∀ command, ¬ root.Writes command) ∧ ∃ commands, Executed (Block.preorderIn root.children) done commands)
  | .poll .., done => Executed [] done []

/-- A block that does anything but what a runner does is no device-set block. -/
theorem not_writes_of_course (h : env.LeavesDevicesTo channel) {block : Block} {found : Course σ}
    (hcourse : course env w block = found) (hfound : ∀ runner, found ≠ .runner runner) (command : DeviceCommand) :
    ¬ block.Writes command := by
  intro hwrites
  have hrunner := h.runner?_eq block
  rw [DeviceCommand.ofBlock?_eq_some_iff.mpr hwrites] at hrunner
  refine absurd ?_ (hfound (env.deliver channel command))
  rw [← hcourse, course.eq_def, hrunner]
  rfl

theorem neutral_of_own {tick : Nat} {block : Block} {event : Event} (h : Own tick block (.event event)) :
    Neutral (.event event) := by
  cases h <;> trivial

/-- A block that begins, with what it does. -/
theorem Stage.Executes.begins {block : Block} {done : List Doing} (h : (Stage.block block).Executes done)
    (rest : List Block) :
    ∃ commands, Executed (Block.preorderIn (block :: rest)) (.event (.active (some block.id)) :: done) commands := by
  have hmem : block ∈ Block.preorderIn (block :: rest) := Block.mem_preorderIn List.mem_cons_self
  rcases h with ⟨command, hwrites, rfl⟩ | ⟨hother, commands, hinside⟩
  · exact ⟨[command], .writes hmem hwrites .nil⟩
  · exact ⟨commands, .begins hmem hother (hinside.mono (Block.preorderIn_children_subset List.mem_cons_self))⟩

/-- A part of a run executes the device-set blocks among those that begin in it, each once. -/
theorem Goes.executes (h : env.LeavesDevicesTo channel) {stage : Stage} {outcome : Except Halt Unit}
    (hgoes : Goes env stage w j outcome w') : stage.Executes (j.map Moment.doing) := by
  induction hgoes with
  | nil | stopped | zero => exact ⟨[], .nil⟩
  | outOfPatience => exact .nil
  | halted _ _ ih => exact ih.begins _
  | @next block rest _ _ _ j j' _ _ _ _ ihBlock ihRest =>
    obtain ⟨commands, hblock⟩ := ihBlock.begins rest
    obtain ⟨commands', hrest⟩ := ihRest
    -- the block ends, and the rest follows
    have hend : Executed (Block.preorderIn (block :: rest))
        (.event (.active none) :: j'.map Moment.doing) commands' :=
      .other trivial (hrest.mono (List.subset_append_right _ _))
    refine ⟨commands ++ commands', ?_⟩
    rw [List.map_cons, List.map_append, List.map_cons]
    exact hblock.append hend
  | runner hcourse =>
    obtain ⟨command, hwrites, -⟩ := h.eq_deliver_of_runner? (runner?_of_course hcourse)
    exact .inl ⟨command, hwrites, rfl⟩
  | event hcourse =>
    refine .inr ⟨not_writes_of_course h hcourse nofun, [], ?_⟩
    exact .other (neutral_of_own (own_of_course_event hcourse)) .nil
  | children hcourse _ ih => exact .inr ⟨not_writes_of_course h hcourse nofun, ih⟩
  | poll hcourse _ ih =>
    exact .inr ⟨not_writes_of_course h hcourse nofun, [], ih.mono (List.nil_subset _)⟩
  | fail hcourse => exact .inr ⟨not_writes_of_course h hcourse nofun, [], .nil⟩
  | timesHalted _ ih => exact ih
  | timesNext _ _ ihBlocks ihRest =>
    obtain ⟨commands, hblocks⟩ := ihBlocks
    obtain ⟨commands', hrest⟩ := ihRest
    refine ⟨commands ++ commands', ?_⟩
    rw [List.map_append]
    exact hblocks.append hrest
  | pollFails | pollEnds => exact .other trivial .nil
  | pollAgain _ _ _ ih => exact .other trivial ih

/-- The passes execute the commands of the blocks below them. -/
theorem GoesPasses.executed (h : env.LeavesDevicesTo channel) {blocks : List Block} {begun : Nat}
    {outcome : Except Halt Nat} (hgoes : GoesPasses env blocks begun w j outcome w') :
    ∃ commands, Executed (Block.preorderIn blocks) (j.map Moment.doing) commands := by
  induction hgoes with
  | empty | stopped | outOfPatience => exact ⟨[], .nil⟩
  | halted _ hblocks | last _ hblocks _ =>
    obtain ⟨commands, hblocks⟩ := hblocks.executes h
    exact ⟨commands, .other trivial hblocks⟩
  | @next _ _ w₁ _ j j' _ _ hblocks _ _ ih =>
    obtain ⟨commands, hblocks⟩ := hblocks.executes h
    obtain ⟨commands', hrest⟩ := ih
    refine ⟨commands ++ commands', .other trivial ?_⟩
    rw [List.map_append, List.map_cons]
    exact hblocks.append (.other trivial hrest)

/-- A program executes the commands of the blocks it reaches. -/
theorem GoesProgram.executed (h : env.LeavesDevicesTo channel) {p : Program} {outcome : Except Halt RunSummary}
    (hgoes : GoesProgram env p w j outcome w') :
    ∃ commands, Executed (reached p) (j.map Moment.doing) commands := by
  have honce {j : Journal σ} {w' : World σ} {outcome : Except Halt Unit}
      (hblocks : Goes env (.blocks (childrenOf p .once)) w j outcome w') :
      ∃ commands, Executed (reached p) (j.map Moment.doing) commands := by
    obtain ⟨commands, hblocks⟩ := hblocks.executes h
    exact ⟨commands, hblocks.mono (List.subset_append_left _ _)⟩
  cases hgoes with
  | onceHalted hblocks => exact honce hblocks
  | foreverHalted hblocks hpasses | ends hblocks hpasses =>
    obtain ⟨commands, hblocks⟩ := honce hblocks
    obtain ⟨commands', hpasses⟩ := hpasses.executed h
    refine ⟨commands ++ commands', ?_⟩
    rw [List.map_append]
    exact hblocks.append (hpasses.mono (List.subset_append_right _ _))

/-- A run executes the commands of the blocks it reaches. -/
theorem GoesRun.executed (h : env.LeavesDevicesTo channel) {p : Program} {outcome : Except Halt RunSummary}
    (hgoes : GoesRun env p w j outcome w') : ∃ commands, Executed (reached p) (j.map Moment.doing) commands := by
  cases hgoes with
  | ends hprogram | outOfPatience hprogram => exact hprogram.executed h
  | failed hprogram =>
    obtain ⟨commands, hprogram⟩ := hprogram.executed h
    refine ⟨commands ++ [], ?_⟩
    rw [List.map_append]
    exact hprogram.append (.other trivial .nil)

end Run

end Signalbox
