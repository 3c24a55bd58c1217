import Signalbox.Run.World

/-!
# Scripted surroundings

A script tells what happens during a run: actions at the events with certain numbers, and actions at
certain times. Time passes only in sleeps, and after a number of sleeps the run is told to end at each.
-/

namespace Signalbox

/-- Something that happens during a run. -/
structure Action where
  stops : Bool
  /-- A new status of the devices. -/
  status : Option Snapshot
  /-- A command that reaches the devices. -/
  command : Option DeviceCommand
  deriving Repr, Inhabited

/-- What happens during a run. -/
structure Script where
  atEvent : List (Nat × Action)
  atTime : List (Nat × Action)
  maxSleeps : Nat
  deriving Repr, Inhabited

/-- How far a script has got: the number of events, the time, the number of sleeps, and the actions whose
time has not come. -/
structure Progress where
  events : Nat
  now : Nat
  sleeps : Nat
  ahead : List (Nat × Action)
  deriving Repr, Inhabited

namespace Action

/-- The devices after an action. -/
def onDevices (action : Action) (devices : Snapshot) : Snapshot :=
  let devices := action.status.getD devices
  match action.command with
  | some command => devices.apply command
  | none => devices

/-- The devices after actions, and whether one of them ends the run. -/
def applyAll (actions : List Action) (devices : Snapshot) : Snapshot × Bool :=
  (actions.foldl (fun devices action => action.onDevices devices) devices, actions.any (·.stops))

end Action

namespace Script

/-- The progress of a script that has just begun. -/
def start (script : Script) : Progress :=
  ⟨0, 0, 0, script.atTime⟩

/-- The reaction to an event: the actions of its number, and after a sleep those whose time has come. -/
def react (script : Script) (event : Event) (w : World Progress) : Reaction Progress :=
  let called := (script.atEvent.filter (·.1 = w.memory.events)).map (·.2)
  let events := w.memory.events + 1
  let (devices, stops) := Action.applyAll called w.devices
  match event with
  | .sleep length =>
    let now := w.memory.now + length
    let sleeps := w.memory.sleeps + 1
    let (due, ahead) := w.memory.ahead.partition (·.1 ≤ now)
    let (devices, stopsNow) := Action.applyAll (due.map (·.2)) devices
    ⟨⟨events, now, sleeps, ahead⟩, devices, stops || stopsNow || script.maxSleeps ≤ sleeps⟩
  | _ => ⟨{ w.memory with events }, devices, stops⟩

/-- The rounds after which a wait or a forever container has surely been told to end. -/
def patience (script : Script) : Nat :=
  script.maxSleeps + 2

end Script

end Signalbox
