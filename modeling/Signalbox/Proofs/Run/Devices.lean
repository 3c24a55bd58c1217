import Signalbox.Proofs.Run.Executed

/-!
# The devices of a run

The devices that conditions see are the devices at first, with the commands delivered so far carried out on them in
their order, and these are the commands of the device-set blocks executed so far. This holds at all points of a run,
although what the conditions see decides which blocks are executed next.

Whoever listens to the channel may go away in the middle of a run. The block whose command nobody takes is then the
last block of the run, and what was delivered before stays.

Main results:

* `Run.Goes.refuses` / `Run.GoesRun.refuses`: where a run comes to an end when a command is not taken.
* `Environment.devices_follow_commands`: the devices, the commands and the device-set blocks of a run.
-/

namespace Signalbox

variable {σ : Type}

namespace Run

variable {env : Environment σ} {channel : Channel} {w w' : World σ} {j j' : Journal σ}

/-! ## Commands that nobody takes -/

/-- All commands of a part of a run are taken, or the part ends with the first one that is not, and names its block. -/
inductive Refuses {α : Type} (env : Environment σ) (channel : Channel) (w : World σ) :
    Journal σ → Except Halt α → Prop where
  | idle {j : Journal σ} {outcome : Except Halt α} (h : Taken env channel w j) : Refuses env channel w j outcome
  | refused {j : Journal σ} (h : Taken env channel w j) (block : Block)
    (hclosed : env.takes channel (standing w j) = false) :
    Refuses env channel w (j ++ [⟨.runner block, standing w j⟩])
      (.error (.failed (.runner block.id Channel.closedMessage)))

namespace Refuses

variable {α β : Type}

/-- What goes on was not refused. -/
theorem taken {a : α} (h : Refuses env channel w j (.ok a : Except Halt α)) : Taken env channel w j := by
  cases h with
  | idle h => exact h

/-- What comes behind commands that were all taken. -/
theorem after {outcome : Except Halt α} (h : Taken env channel w j)
    (hrest : Refuses env channel (standing w j) j' outcome) : Refuses env channel w (j ++ j') outcome := by
  cases hrest with
  | idle hrest => exact .idle (taken_append.mpr ⟨h, hrest⟩)
  | refused hrest block hclosed =>
    rw [← standing_append] at hclosed
    rw [← List.append_assoc, ← standing_append]
    exact .refused (taken_append.mpr ⟨h, hrest⟩) block hclosed

/-- A halt is handed on. -/
theorem of_error {halt : Halt} (h : Refuses env channel w j (.error halt : Except Halt α)) :
    Refuses env channel w j (.error halt : Except Halt β) := by
  cases h with
  | idle h => exact .idle h
  | refused h block hclosed => exact .refused h block hclosed

end Refuses

/-- A part of a run ends at the first command that is not taken. -/
theorem Goes.refuses (h : env.LeavesDevicesTo channel) {stage : Stage} {outcome : Except Halt Unit}
    (hgoes : Goes env stage w j outcome w') : Refuses env channel w j outcome := by
  induction hgoes with
  | nil | stopped | zero | outOfPatience | fail => exact .idle trivial
  | halted _ _ ih => exact ih.after taken_event
  | @next block _ w w₁ _ j j' _ _ hblock _ ihBlock ihRest =>
    -- the block begins, runs and ends, and then the others run
    have hbegun : Taken env channel w (env.moment (.active (some block.id)) w :: j) :=
      taken_append.mpr ⟨taken_event, ihBlock.taken⟩
    refine Refuses.after hbegun ?_
    show Refuses env channel (standing (env.emit _ w) j) _ _
    rw [hblock.standing_eq]
    exact ihRest.after taken_event
  | @runner block w _ hcourse =>
    obtain ⟨command, -, rfl⟩ := h.eq_deliver_of_runner? (runner?_of_course hcourse)
    cases htakes : env.takes channel w with
    | true => exact .idle ⟨fun _ => htakes, trivial⟩
    | false =>
      rw [Environment.deliver_of_closed htakes]
      exact Refuses.refused (j := []) trivial block htakes
  | event | pollFails | pollEnds => exact .idle taken_event
  | children _ _ ih | poll _ _ ih | timesHalted _ ih => exact ih
  | timesNext hblocks _ ihBlocks ihRest =>
    refine Refuses.after ihBlocks.taken ?_
    rwa [hblocks.standing_eq]
  | pollAgain _ _ _ ih => exact ih.after taken_event

/-- When the passes end at a closed channel, the command that was refused comes last. -/
theorem GoesPasses.refuses (h : env.LeavesDevicesTo channel) {blocks : List Block} {begun : Nat}
    {outcome : Except Halt Nat} (hgoes : GoesPasses env blocks begun w j outcome w') :
    Refuses env channel w j outcome := by
  induction hgoes with
  | empty | stopped | outOfPatience => exact .idle trivial
  | halted _ hblocks => exact (hblocks.refuses h).of_error.after taken_pass
  | last _ hblocks _ => exact .idle (taken_append.mpr ⟨taken_pass, (hblocks.refuses h).taken⟩)
  | @next _ w w₁ _ j j' _ _ hblocks _ _ ih =>
    have hpass : Taken env channel w (⟨.pass, w⟩ :: j) :=
      taken_append.mpr ⟨taken_pass, (hblocks.refuses h).taken⟩
    refine Refuses.after hpass ?_
    show Refuses env channel (standing w j) _ _
    rw [hblocks.standing_eq]
    exact ih.after taken_event

/-- When a program ends at a closed channel, the command that was refused comes last. -/
theorem GoesProgram.refuses (h : env.LeavesDevicesTo channel) {p : Program} {outcome : Except Halt RunSummary}
    (hgoes : GoesProgram env p w j outcome w') : Refuses env channel w j outcome := by
  cases hgoes with
  | onceHalted honce => exact (honce.refuses h).of_error
  | foreverHalted honce hforever =>
    refine Refuses.after (honce.refuses h).taken ?_
    rw [honce.standing_eq]
    exact (hforever.refuses h).of_error
  | ends honce hforever =>
    refine .idle (taken_append.mpr ⟨(honce.refuses h).taken, ?_⟩)
    rw [honce.standing_eq]
    exact (hforever.refuses h).taken

/-- All commands of a run are taken, or the run ends in the block of the first one that is not. -/
theorem GoesRun.refuses (h : env.LeavesDevicesTo channel) {p : Program} {outcome : Except Halt RunSummary}
    (hgoes : GoesRun env p w j outcome w') :
    Taken env channel w j ∨ ∃ before block, Taken env channel w before ∧
      env.takes channel (standing w before) = false ∧
      j = before ++ [⟨.runner block, standing w before⟩, env.moment (.active none) (standing w before)] ∧
      outcome = .error (.failed (.runner block.id Channel.closedMessage)) := by
  cases hgoes with
  | ends hprogram => exact .inl (hprogram.refuses h).taken
  | outOfPatience hprogram =>
    cases hprogram.refuses h with
    | idle htaken => exact .inl htaken
  | @failed _ j _ hprogram =>
    have hrefuses := hprogram.refuses h
    have hend := hprogram.standing_eq
    generalize hhalt : (Except.error (.failed _) : Except Halt RunSummary) = outcome at hrefuses ⊢
    cases hrefuses with
    | idle htaken => exact .inl (taken_append.mpr ⟨htaken, taken_event⟩)
    | @refused before htaken block hclosed =>
      -- the refused command leaves the world as it was
      rw [standing_append] at hend
      obtain rfl : standing w before = _ := hend
      exact .inr ⟨before, block, htaken, hclosed, List.append_assoc _ _ _, rfl⟩

/-- There is one place where a run comes to an end because a command is not taken. -/
theorem Taken.eq_of_closed {before before' after : Journal σ} {block block' : Block} {v v' : World σ}
    {event : Event} (h : Taken env channel w before') (hclosed : env.takes channel (standing w before) = false)
    (hjournal : before ++ ⟨.runner block, v⟩ :: after =
      before' ++ [⟨.runner block', v'⟩, env.moment event v']) :
    before = before' ∧ block = block' ∧ v = v' ∧ after = [env.moment event v'] := by
  rcases List.append_eq_append_iff.mp hjournal with ⟨between, rfl, hrest⟩ | ⟨between, rfl, hrest⟩
  · cases between with
    | nil => simpa [and_assoc] using hrest
    | cons first between =>
      -- the command would be among those that are taken
      obtain ⟨rfl, -⟩ := List.cons.inj hrest
      have htakes := (taken_append.mp h).2.1 ⟨block, rfl⟩
      exact absurd (htakes.symm.trans hclosed) nofun
  · match between with
    | [] =>
      obtain ⟨⟨rfl, rfl⟩, rfl⟩ : (_ ∧ _) ∧ _ := by simpa using hrest
      exact ⟨List.append_nil _, rfl, rfl, rfl⟩
    | [first] => cases (List.cons.inj (List.cons.inj hrest).2).1
    | first :: second :: between => simp at hrest

/-! ## A run whose commands nobody takes -/

/-- A run executes no device-set block, or it ends in the first one that begins. -/
inductive EndsAtFirst (blocks : List Block) : List Doing → Except Halt RunSummary → Prop where
  | without {done : List Doing} {outcome : Except Halt RunSummary} (h : Executed blocks done []) :
    EndsAtFirst blocks done outcome
  | first {before : List Doing} {block : Block} {command : DeviceCommand} (h : Executed blocks before [])
    (hmem : block ∈ blocks) (hwrites : block.Writes command) :
    EndsAtFirst blocks (before ++ [.event (.active (some block.id)), .runner block, .event (.active none)])
      (.error (.failed (.runner block.id Channel.closedMessage)))

/-- When no command is handed over before a refused one, its block is the first device-set block. -/
theorem EndsAtFirst.of_refused {blocks : List Block} {before : List Doing} {block : Block}
    {commands : List DeviceCommand} (hbefore : before.filterMap command? = [])
    (h : Executed blocks (before ++ [.runner block, .event (.active none)]) commands) :
    EndsAtFirst blocks (before ++ [.runner block, .event (.active none)])
      (.error (.failed (.runner block.id Channel.closedMessage))) := by
  obtain ⟨before, earlier, command, rfl, hearlier, hmem, hwrites⟩ := h.of_append_runner
  have hnone : earlier = [] := by
    rw [hearlier.commands_eq]
    rw [List.filterMap_append] at hbefore
    exact (List.append_eq_nil_iff.mp hbefore).1
  subst hnone
  rw [List.append_assoc]
  exact .first hearlier hmem hwrites

end Run

namespace Environment

variable {env : Environment σ} {channel : Channel}

/-- A command is handed over for a block in a world, with the world after it, the rest of the journal and the outcome of
the run. It is taken: it comes after the commands delivered before, and a simulating channel carries it out. Or nobody
takes it: then the world stays as it is, and the run ends with an error that names the block. -/
inductive Handed (env : Environment σ) (channel : Channel) (id : String) (command : DeviceCommand) (now : World σ) :
    World σ → Journal σ → Except Halt RunSummary → Prop where
  | taken {v : World σ} {rest : Journal σ} {outcome : Except Halt RunSummary} (h : env.takes channel now = true)
    (hdelivered : v.delivered = now.delivered ++ [command])
    (hdevices : v.devices = if channel.simulates then now.devices.apply command else now.devices) :
    Handed env channel id command now v rest outcome
  | refused (h : env.takes channel now = false) :
    Handed env channel id command now now [env.moment (.active none) now]
      (.error (.failed (.runner id Channel.closedMessage)))

/-- What happens to a command that is handed over in a run. -/
theorem handed_of_journal (h : env.LeavesDevicesTo channel) {patience : Nat} {p : Program} {w v : World σ}
    {before after : Journal σ} {block : Block}
    (hjournal : env.journal patience p w = before ++ ⟨.runner block, v⟩ :: after) :
    ∃ command, block.Writes command ∧
      env.Handed channel block.id command (Run.standing w before) v after (env.execute patience p w).1 := by
  have hsteps := env.steps_journal patience p w
  rw [hjournal] at hsteps
  have hstep := hsteps.step_of_append
  cases hstep with
  | runner hrunner =>
    obtain ⟨command, hwrites, rfl⟩ := h.eq_deliver_of_runner? hrunner
    refine ⟨command, hwrites, ?_⟩
    -- whether somebody listens when the block is run decides what becomes of its command
    cases htakes : env.takes channel (Run.standing w before) with
    | true => exact .taken htakes (delivered_deliver htakes command) (devices_deliver htakes command)
    | false =>
      rcases (env.goes_execute patience p w).refuses h with
        htaken | ⟨before', block', htaken, hclosed, hrefused, houtcome⟩
      · -- a command that nobody takes is not among those that are taken
        rw [hjournal] at htaken
        have htakes' := (Run.taken_append.mp htaken).2.1 ⟨block, rfl⟩
        exact absurd (htakes'.symm.trans htakes) nofun
      · rw [hjournal] at hrefused
        obtain ⟨rfl, rfl, hv, rfl⟩ := htaken.eq_of_closed htakes hrefused
        rw [hv, houtcome]
        exact .refused hclosed

/-- The commands delivered at a point of a run are those of the device-set blocks executed so far. -/
theorem executedSoFar_of_isPoint (h : env.LeavesDevicesTo channel) {patience : Nat} {p : Program} {w now : World σ}
    {done : Journal σ} (hw : w.delivered = []) (hpoint : env.IsPoint patience p w done now) :
    Run.ExecutedSoFar (Run.reached p) (done.map Moment.doing) now.delivered := by
  have hgoes := env.goes_execute patience p w
  obtain ⟨commands, hexecuted⟩ := hgoes.executed h
  obtain ⟨rest, hrest⟩ := hpoint.done_prefix
  have hsoFar (htaken : Run.Taken env channel w done) :
      Run.ExecutedSoFar (Run.reached p) (done.map Moment.doing) now.delivered := by
    rw [← hrest, List.map_append] at hexecuted
    rw [hpoint.steps.delivered_eq h htaken, hw]
    exact .of_append hexecuted
  rcases hgoes.refuses h with htaken | ⟨before, block, htaken, -, hjournal, -⟩
  · rw [← hrest] at htaken
    exact hsoFar (Run.taken_append.mp htaken).1
  · rw [hjournal, List.map_append] at hexecuted
    obtain ⟨begun, earlier, command, hbegun, hearlier, hmem, hwrites⟩ := hexecuted.of_append_runner
    have hdelivered : (Run.standing w before).delivered = earlier := by
      have hsteps := env.steps_journal patience p w
      rw [hjournal] at hsteps
      rw [hsteps.of_append.delivered_eq h htaken, hw, hbegun, List.filterMap_append, hearlier.commands_eq]
      exact List.append_nil _
    have hnow := hpoint.now_eq
    rw [hjournal] at hrest
    -- the point is in front of the refused command, or behind it
    rcases List.append_eq_append_iff.mp hrest with ⟨between, rfl, -⟩ | ⟨between, rfl, hlast⟩
    · exact hsoFar (Run.taken_append.mp htaken).1
    · rw [Run.standing_append] at hnow
      match between with
      | [] =>
        rw [List.append_nil] at hsoFar ⊢
        exact hsoFar htaken
      | [_] =>
        obtain ⟨rfl, -⟩ := List.cons.inj hlast
        obtain rfl : now = Run.standing w before := hnow
        rw [hdelivered, List.map_append, hbegun, List.append_assoc]
        exact .refused hearlier hmem hwrites (.inl rfl)
      | [_, _] =>
        obtain ⟨rfl, rfl, -⟩ : _ ∧ _ ∧ _ := by simpa using hlast
        obtain rfl : now = env.emit (.active none) (Run.standing w before) := hnow
        rw [delivered_emit, hdelivered, List.map_append, hbegun, List.append_assoc]
        exact .refused hearlier hmem hwrites (.inr rfl)
      | _ :: _ :: _ :: _ => simp at hlast

/-- When nobody ever takes a command, the first device-set block that begins is the last of a run. -/
theorem endsAtFirst_of_closed (h : env.LeavesDevicesTo channel) {patience : Nat} {p : Program} {w : World σ}
    (hclosed : ∀ before after, env.journal patience p w = before ++ after →
      env.takes channel (Run.standing w before) = false) :
    Run.EndsAtFirst (Run.reached p) ((env.journal patience p w).map Moment.doing) (env.execute patience p w).1 := by
  have hsteps := env.steps_journal patience p w
  have hgoes := env.goes_execute patience p w
  obtain ⟨commands, hexecuted⟩ := hgoes.executed h
  -- as long as all commands are taken, none is handed over
  have hnone (before after : Journal σ) (hjournal : env.journal patience p w = before ++ after)
      (htaken : Run.Taken env channel w before) : (before.map Moment.doing).filterMap Run.command? = [] := by
    rw [hjournal] at hsteps
    have hsame := (hsteps.of_append.of_closed h fun front back hbefore =>
      hclosed front (back ++ after) (by rw [hjournal, hbefore, List.append_assoc])).1
    rw [hsteps.of_append.delivered_eq h htaken] at hsame
    exact List.append_right_eq_self.mp hsame
  rcases hgoes.refuses h with htaken | ⟨before, block, htaken, -, hjournal, houtcome⟩
  · rw [hexecuted.commands_eq, hnone _ [] (List.append_nil _).symm htaken] at hexecuted
    exact .without hexecuted
  · rw [hjournal, List.map_append] at hexecuted ⊢
    rw [houtcome]
    exact .of_refused (hnone _ _ hjournal htaken) hexecuted

/-- When nobody but the channel writes to the devices, a condition sees the devices as they are at a point of the run,
and at every point of it:
* a simulating channel has made of the devices what the commands delivered so far make of them, in their order, and
  without simulation the devices are as they were at first;
* the commands delivered are those of the device-set blocks executed so far, in their order, each once.
A device-set block hands over its own command. If somebody listens, it is delivered there and then. Otherwise it is not,
and the run ends with an error that names the block. So with a channel that nobody ever listens to, the first device-set
block that begins ends the run, and until then nothing was delivered and the devices have stayed as they were. -/
theorem devices_follow_commands (h : env.LeavesDevicesTo channel) (patience : Nat) (p : Program) (memory : σ)
    (running : Bool) (devices : Snapshot) :
    let w : World σ := .start memory running devices
    (∀ look ∈ env.looks patience p w,
      look.1 = look.2.1.devices ∧ env.IsPoint patience p w look.2.2 look.2.1) ∧
    env.IsPoint patience p w (env.journal patience p w) (env.execute patience p w).2 ∧
    (∃ asked, Run.Executed (Run.reached p) ((env.journal patience p w).map Moment.doing) asked) ∧
    (∀ done now, env.IsPoint patience p w done now →
      now.devices = (if channel.simulates then now.delivered.foldl Snapshot.apply devices else devices) ∧
      Run.ExecutedSoFar (Run.reached p) (done.map Moment.doing) now.delivered) ∧
    (∀ before block v after, env.journal patience p w = before ++ ⟨.runner block, v⟩ :: after →
      ∃ command, block.Writes command ∧
        env.Handed channel block.id command (Run.standing w before) v after (env.execute patience p w).1) ∧
    ((∀ done now, env.IsPoint patience p w done now → env.takes channel now = false) →
      (∀ done now, env.IsPoint patience p w done now → now.delivered = [] ∧ now.devices = devices) ∧
      Run.EndsAtFirst (Run.reached p) ((env.journal patience p w).map Moment.doing)
        (env.execute patience p w).1) := by
  intro w
  refine ⟨fun look hlook => isPoint_of_mem_looks hlook, env.isPoint_execute patience p w,
    (env.goes_execute patience p w).executed h, fun done now hpoint => ⟨?_, executedSoFar_of_isPoint h rfl hpoint⟩,
    fun before block v after hjournal => handed_of_journal h hjournal, fun hclosed => ?_⟩
  · -- every step leaves the devices as the commands delivered so far made them
    exact hpoint.steps.keeps
      (fun _ v => v.devices = if channel.simulates then v.delivered.foldl Snapshot.apply devices else devices)
      (ite_self _).symm fun _ _ _ hv hstep => hstep.devices_eq h hv
  · -- a channel that nobody listens to at any point is closed in front of every part of the journal
    have hfront (before after : Journal σ) (hjournal : env.journal patience p w = before ++ after) :
        env.takes channel (Run.standing w before) = false :=
      hclosed before _ ⟨⟨after, hjournal.symm⟩, rfl⟩
    refine ⟨fun done now hpoint => ?_, endsAtFirst_of_closed h hfront⟩
    obtain ⟨rest, hrest⟩ := hpoint.done_prefix
    exact hpoint.steps.of_closed h fun before after hdone =>
      hfront before (after ++ rest) (by rw [← hrest, hdone, List.append_assoc])

/-- Two commands are taken, and the second one follows from what the condition has seen of the first one. Then nobody
listens any more, and the next pass ends the run at its first block. -/
theorem devices_follow_commands_goneAfterTwo :
    let p : Program := ⟨[.container "main" none .forever
      [.statement "d" none (.deviceSet "AB12" "speed" (.number (.int 2))),
        .container "i" none (.branch "AB12:speed > 1") [.statement "e" none (.deviceSet "all" "speed" (.text "0"))]]]⟩
    let env : Environment Nat :=
      { tick := 1, maxPasses := none, notices := fun _ => true, foreign? := fun _ => none
        react := fun _ w => ⟨w.memory + 1, w.devices, false⟩
        channel := some ⟨false, true⟩
        listens := fun w => decide (w.sent.length < 2) }
    let w : World Nat := .start 0 true .empty
    let commands : List DeviceCommand := [⟨"AB12", "speed", .number (.int 2)⟩, ⟨"all", "speed", .text "0"⟩]
    env.LeavesDevicesTo ⟨false, true⟩ ∧
      (env.execute 2 p w).1 = .error (.failed (.runner "d" "device command channel closed")) ∧
      (env.execute 2 p w).2.delivered = commands ∧
      (env.execute 2 p w).2.devices = commands.foldl Snapshot.apply .empty ∧
      Run.ExecutedSoFar (Run.reached p) ((env.journal 2 p w).map Moment.doing) commands ∧
      (env.looks 2 p w).map (·.2.1.delivered) = [commands.take 1] ∧
      ∀ look ∈ env.looks 2 p w, look.1 = look.2.1.delivered.foldl Snapshot.apply .empty := by
  intro p env w commands
  have h : env.LeavesDevicesTo ⟨false, true⟩ := ⟨fun _ => rfl, rfl, fun _ _ => rfl⟩
  obtain ⟨hlooks, hend, -, hpoints, -⟩ := devices_follow_commands h 2 p 0 true .empty
  have hdelivered : (env.execute 2 p w).2.delivered = commands := by decide +kernel
  obtain ⟨hdevices, hexecuted⟩ := hpoints _ _ hend
  rw [hdelivered] at hdevices hexecuted
  -- the branch looks once, behind the first command
  have hseen : (env.looks 2 p w).map (·.2.1.delivered) = [commands.take 1] := by decide +kernel
  refine ⟨h, by decide +kernel, hdelivered, hdevices, hexecuted, hseen, fun look hlook => ?_⟩
  obtain ⟨hlook, hpoint⟩ := hlooks look hlook
  exact hlook.trans (hpoints _ _ hpoint).1

end Environment

end Signalbox
