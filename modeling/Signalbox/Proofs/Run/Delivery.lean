import Signalbox.Proofs.Run.Looks

/-!
# Commands and devices

When nobody but a channel writes to the devices, a single step of a run does one of two things to them: a channel that
simulates carries out a command that it takes, or they stay as they are. So they are a function of the commands
delivered, whatever else the surroundings do. A command that a channel does not take changes nothing at all.

Whoever listens to a channel may go away at any time. `Run.Taken` says of a part of a run that all commands handed over
in it have been taken.

Main results:

* `DeviceCommand.ofBlock?_eq_some_iff`: which blocks ask for a command.
* `Environment.LeavesDevicesTo.runner?_eq`: the runners of such surroundings.
* `Run.Step.devices_eq`: what a step does to the devices.
* `Run.Steps.delivered_eq` / `Run.Steps.of_closed`: the commands after a part of a run.
-/

namespace Signalbox

variable {σ : Type}

/-- A device-set block, and the command that it asks for. -/
inductive Block.Writes : Block → DeviceCommand → Prop where
  | deviceSet (id : String) (position : Option Position) (device prop : String) (value : Scalar) :
    Writes (.statement id position (.deviceSet device prop value)) ⟨device, prop, value⟩

/-- A block asks for a command exactly if it is a device-set block. -/
theorem DeviceCommand.ofBlock?_eq_some_iff {block : Block} {command : DeviceCommand} :
    DeviceCommand.ofBlock? block = some command ↔ block.Writes command := by
  constructor
  · intro h
    unfold ofBlock? at h
    split at h
    · obtain rfl := Option.some.inj h
      exact .deviceSet _ _ _ _ _
    · cases h
  · rintro ⟨⟩
    rfl

/-- The surroundings have no runners besides a channel, and leave the devices to it. -/
structure Environment.LeavesDevicesTo (env : Environment σ) (channel : Channel) : Prop where
  foreign : ∀ block, env.foreign? block = none
  channel_eq : env.channel = some channel
  react : ∀ event w, (env.react event w).devices = w.devices

/-- The message of a closed channel. -/
def Channel.closedMessage : String := "device command channel closed"

namespace Environment

variable {env : Environment σ} {channel : Channel} {w : World σ}

/-! ## Deliveries -/

/-- A channel that does not take a command fails, and the world stays as it is. -/
theorem deliver_of_closed (hclosed : env.takes channel w = false) (command : DeviceCommand) :
    env.deliver channel command w = (.error Channel.closedMessage, w) := by
  rw [deliver, hclosed]
  rfl

/-- A command that is taken comes after those delivered before. -/
theorem delivered_deliver (htakes : env.takes channel w = true) (command : DeviceCommand) :
    (env.deliver channel command w).2.delivered = w.delivered ++ [command] := by
  rw [deliver, if_pos htakes]
  exact List.reverse_cons

/-- Only a simulating channel carries out what it takes. -/
theorem devices_deliver (htakes : env.takes channel w = true) (command : DeviceCommand) :
    (env.deliver channel command w).2.devices =
      if channel.simulates then w.devices.apply command else w.devices := by
  rw [deliver, if_pos htakes]

/-- An event delivers nothing. -/
theorem delivered_emit (env : Environment σ) (event : Event) (w : World σ) :
    (env.emit event w).delivered = w.delivered := by
  rw [emit]
  split_ifs <;> rfl

namespace LeavesDevicesTo

/-- An event leaves the devices alone, where only commands reach them. -/
theorem devices_emit (h : env.LeavesDevicesTo channel) (event : Event) (w : World σ) :
    (env.emit event w).devices = w.devices := by
  rw [emit]
  split_ifs
  · exact h.react event _
  · rfl

/-- The only runners are those that deliver the command of a device-set block. -/
theorem runner?_eq (h : env.LeavesDevicesTo channel) (block : Block) :
    env.runner? block = (DeviceCommand.ofBlock? block).map (env.deliver channel) := by
  rw [runner?, h.foreign, h.channel_eq]
  cases DeviceCommand.ofBlock? block <;> rfl

/-- What a runner does is to deliver the command of a device-set block. -/
theorem eq_deliver_of_runner? (h : env.LeavesDevicesTo channel) {block : Block}
    {runner : StateM (World σ) (Except String Unit)} (hrunner : env.runner? block = some runner) :
    ∃ command, block.Writes command ∧ runner = env.deliver channel command := by
  rw [h.runner?_eq] at hrunner
  obtain ⟨command, hcommand, rfl⟩ := Option.map_eq_some_iff.mp hrunner
  exact ⟨command, DeviceCommand.ofBlock?_eq_some_iff.mp hcommand, rfl⟩

end LeavesDevicesTo

end Environment

namespace Run

variable {env : Environment σ} {channel : Channel} {v w w' : World σ} {m : Moment σ} {j j' : Journal σ}
  {devices : Snapshot}

/-! ## Steps -/

/-- The command that is handed to a runner. -/
def command? : Doing → Option DeviceCommand
  | .runner block => DeviceCommand.ofBlock? block
  | _ => none

/-- A simulating channel carries out what it takes, and nothing else touches the devices. -/
theorem Step.devices_eq (h : env.LeavesDevicesTo channel) (hstep : Step env v m)
    (hv : v.devices = if channel.simulates then v.delivered.foldl Snapshot.apply devices else devices) :
    m.world.devices =
      if channel.simulates then m.world.delivered.foldl Snapshot.apply devices else devices := by
  cases hstep with
  | event event =>
    show (env.emit event v).devices = ite _ ((env.emit event v).delivered.foldl _ _) _
    rw [h.devices_emit, Environment.delivered_emit, hv]
  | runner hrunner =>
    obtain ⟨command, -, rfl⟩ := h.eq_deliver_of_runner? hrunner
    -- a command that is taken is applied at once; one that is not leaves all as it was
    cases htakes : env.takes channel v with
    | true =>
      dsimp only
      rw [Environment.devices_deliver htakes, Environment.delivered_deliver htakes, List.foldl_concat]
      split_ifs at hv ⊢ with hsimulates
      · rw [hv]
      · exact hv
    | false =>
      rw [Environment.deliver_of_closed htakes]
      exact hv
  | pass => exact hv

/-- A step hands over one command at most. If it is taken, it is delivered. -/
theorem Step.delivered_eq (h : env.LeavesDevicesTo channel) (hstep : Step env v m)
    (htakes : (∃ block, m.doing = .runner block) → env.takes channel v = true) :
    m.world.delivered = v.delivered ++ (command? m.doing).toList := by
  cases hstep with
  | event event => exact (Environment.delivered_emit env event v).trans (List.append_nil _).symm
  | @runner block _ hrunner =>
    obtain ⟨command, hwrites, rfl⟩ := h.eq_deliver_of_runner? hrunner
    rw [Environment.delivered_deliver (htakes ⟨block, rfl⟩), command?,
      DeviceCommand.ofBlock?_eq_some_iff.mpr hwrites]
    rfl
  | pass => exact (List.append_nil _).symm

/-- Where nobody listens, a step delivers nothing and the devices stay as they are. -/
theorem Step.of_closed (h : env.LeavesDevicesTo channel) (hstep : Step env v m)
    (hclosed : env.takes channel v = false) :
    m.world.delivered = v.delivered ∧ m.world.devices = v.devices := by
  cases hstep with
  | event event => exact ⟨Environment.delivered_emit env event v, h.devices_emit event v⟩
  | runner hrunner =>
    obtain ⟨command, -, rfl⟩ := h.eq_deliver_of_runner? hrunner
    rw [Environment.deliver_of_closed hclosed]
    exact ⟨rfl, rfl⟩
  | pass => exact ⟨rfl, rfl⟩

/-! ## Commands that are taken -/

/-- The channel takes every command that is handed over in a journal that begins in a world. -/
def Taken (env : Environment σ) (channel : Channel) : World σ → Journal σ → Prop
  | _, [] => True
  | w, m :: j => ((∃ block, m.doing = .runner block) → env.takes channel w = true) ∧ Taken env channel m.world j

theorem taken_append : Taken env channel w (j ++ j') ↔
    Taken env channel w j ∧ Taken env channel (standing w j) j' := by
  induction j generalizing w with
  | nil => exact (and_iff_right trivial).symm
  | cons m j ih =>
    rw [List.cons_append, Taken, Taken, ih, and_assoc]
    rfl

/-- An event hands nothing over. -/
theorem taken_event {event : Event} : Taken env channel w [env.moment event v] :=
  ⟨fun ⟨_, hblock⟩ => absurd hblock nofun, trivial⟩

/-- A pass that is counted hands nothing over. -/
theorem taken_pass : Taken env channel w [⟨.pass, v⟩] :=
  ⟨fun ⟨_, hblock⟩ => absurd hblock nofun, trivial⟩

/-- When all commands were taken, those delivered are those handed to the runners. -/
theorem Steps.delivered_eq (h : env.LeavesDevicesTo channel) (hsteps : Steps env w j v)
    (htaken : Taken env channel w j) :
    v.delivered = w.delivered ++ (j.map Moment.doing).filterMap command? := by
  induction hsteps with
  | nil => exact (List.append_nil _).symm
  | @concat v j m hrest hstep ih =>
    obtain ⟨htaken, hlast, -⟩ := taken_append.mp htaken
    rw [← hrest.eq_standing] at hlast
    rw [hstep.delivered_eq h hlast, ih htaken, List.append_assoc, List.map_append, List.filterMap_append]
    cases hcommand : command? m.doing <;> simp [hcommand]

/-- As long as nobody listens, nothing is delivered and the devices stay as they are. -/
theorem Steps.of_closed (h : env.LeavesDevicesTo channel) (hsteps : Steps env w j v)
    (hclosed : ∀ before after, j = before ++ after → env.takes channel (standing w before) = false) :
    v.delivered = w.delivered ∧ v.devices = w.devices := by
  induction hsteps with
  | nil => exact ⟨rfl, rfl⟩
  | @concat v j m hrest hstep ih =>
    have hsame := ih fun before after hj => hclosed before (after ++ [m]) (by rw [hj, List.append_assoc])
    have hlast : env.takes channel v = false := by
      rw [hrest.eq_standing]
      exact hclosed j [m] rfl
    obtain ⟨hdelivered, hdevices⟩ := hstep.of_closed h hlast
    exact ⟨hdelivered.trans hsame.1, hdevices.trans hsame.2⟩

end Run

end Signalbox
