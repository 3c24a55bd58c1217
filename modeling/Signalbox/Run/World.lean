import Signalbox.Run.Interpreter

/-!
# Worlds

A `World` is what a run and its surroundings share: the devices, the flag that keeps the run going, the
commands delivered and the events so far. An `Environment` says how the surroundings react to each event;
they may change the devices, and they may clear the flag but not set it again. It also says which runners
there are: foreign ones for any block, and a `Channel` that takes the writes of device-set blocks. Whoever listens to
the channel may go away at any time, and then it takes no more of them.

`Environment.host` are the surroundings of a run in a world.
-/

namespace Signalbox

/-- A channel for device commands. Commands can be delivered while somebody listens; a simulating channel carries
them out on the devices that conditions see. -/
structure Channel where
  /-- Somebody listens throughout a run. Otherwise the surroundings tell who listens when. -/
  isOpen : Bool
  simulates : Bool
  deriving DecidableEq, Repr

/-- What a run and its surroundings share. `memory` is what else the surroundings remember. -/
structure World (σ : Type) where
  memory : σ
  running : Bool
  devices : Snapshot
  /-- The commands delivered, the latest first. -/
  sent : List DeviceCommand
  /-- The events, the latest first. -/
  past : List Event

namespace World

/-- The world before a run. -/
def start (memory : σ) (running : Bool) (devices : Snapshot) : World σ :=
  ⟨memory, running, devices, [], []⟩

/-- The events in their order. -/
def events (w : World σ) : List Event :=
  w.past.reverse

/-- The commands delivered, in their order. -/
def delivered (w : World σ) : List DeviceCommand :=
  w.sent.reverse

end World

/-- What the surroundings do about an event. -/
structure Reaction (σ : Type) where
  memory : σ
  devices : Snapshot
  /-- The run is to end. -/
  stops : Bool

/-- The surroundings of a run. -/
structure Environment (σ : Type) where
  tick : Nat
  maxPasses : Option Nat
  /-- Which events the surroundings notice; the others leave no trace. -/
  notices : Event → Bool
  /-- The reaction to an event that has just been noted in the world. -/
  react : Event → World σ → Reaction σ
  /-- The runner that the surroundings have for a block, if any: its outcome in a world. -/
  foreign? : Block → Option (World σ → Except String Unit)
  channel : Option Channel
  /-- Somebody listens to a channel that nobody listens to throughout: nobody does, unless said otherwise. -/
  listens : World σ → Bool := fun _ => false

namespace Environment

/-- The world after an event. -/
def emit (env : Environment σ) (event : Event) (w : World σ) : World σ :=
  if env.notices event then
    let noted := { w with past := event :: w.past }
    let reaction := env.react event noted
    { noted with
      memory := reaction.memory
      devices := reaction.devices
      running := noted.running && !reaction.stops }
  else w

/-- The channel takes a command in a world. -/
def takes (env : Environment σ) (channel : Channel) (w : World σ) : Bool :=
  channel.isOpen || env.listens w

/-- Delivers a command, or fails because the channel is closed. -/
def deliver (env : Environment σ) (channel : Channel) (command : DeviceCommand) (w : World σ) :
    Except String Unit × World σ :=
  if env.takes channel w then
    (.ok (),
      { w with
        sent := command :: w.sent
        devices := if channel.simulates then w.devices.apply command else w.devices })
  else (.error "device command channel closed", w)

/-- The runner for a block: a foreign one, or the channel's for a device-set block. -/
def runner? (env : Environment σ) (block : Block) :
    Option (StateM (World σ) (Except String Unit)) :=
  match env.foreign? block with
  | some outcome => some fun w =>
    let w := env.emit (.runner block.id) w
    (outcome w, w)
  | none =>
    match env.channel, DeviceCommand.ofBlock? block with
    | some channel, some command => some (env.deliver channel command)
    | _, _ => none

/-- What a runner does: it is a foreign one and an event tells of it, or it delivers the command of the block. -/
theorem runner?_cases {env : Environment σ} {block : Block} {runner : StateM (World σ) (Except String Unit)}
    (h : env.runner? block = some runner) :
    (∃ outcome, env.foreign? block = some outcome ∧
        runner = fun w => (outcome (env.emit (.runner block.id) w), env.emit (.runner block.id) w)) ∨
      ∃ channel command, env.foreign? block = none ∧ env.channel = some channel ∧
        DeviceCommand.ofBlock? block = some command ∧ runner = env.deliver channel command := by
  rw [runner?.eq_def] at h
  split at h
  · next outcome hforeign => exact .inl ⟨outcome, hforeign, (Option.some.inj h).symm⟩
  · next hforeign =>
    split at h
    · next channel command hchannel hcommand =>
      exact .inr ⟨channel, command, hforeign, hchannel, hcommand, (Option.some.inj h).symm⟩
    · cases h

/-- A delivery is no event. -/
theorem past_deliver (env : Environment σ) (channel : Channel) (command : DeviceCommand) (w : World σ) :
    (env.deliver channel command w).2.past = w.past := by
  rw [deliver]
  split <;> rfl

/-- A delivery does not end a run. -/
theorem running_deliver (env : Environment σ) (channel : Channel) (command : DeviceCommand) (w : World σ) :
    (env.deliver channel command w).2.running = w.running := by
  rw [deliver]
  split <;> rfl

/-- The surroundings as the host of a run. -/
def host (env : Environment σ) : Host (StateM (World σ)) where
  tick := env.tick
  maxPasses := env.maxPasses
  isRunning := fun w => (w.running, w)
  snapshot := fun w => (w.devices, w)
  emit := fun event w => ((), env.emit event w)
  runner? := env.runner?

/-- Runs a program in a world. -/
def execute (env : Environment σ) (patience : Nat) (p : Program) (w : World σ) :
    Except Halt RunSummary × World σ :=
  Run.execute env.host patience p w

end Environment

end Signalbox
