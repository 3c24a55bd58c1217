import Signalbox.CommandLine.Output
import Signalbox.Run.Interpreter

/-!
# Stations

A `Station` is where commands are carried out: a disk, the streams, the time, and what the environment says.
`Station.host` are the surroundings of a run at a station. The devices of such a run are what the device
status says; it is read again from time to time, unless the run simulates its own commands.
-/

namespace Signalbox.CommandLine

/-- Where commands are carried out. -/
structure Station (m : Type → Type) where
  disk : Disk m
  console : Console m
  place : ConfigPlace
  /-- Draws a number for a new id. -/
  draw : m Nat
  /-- Sleeps for nanoseconds. -/
  sleep : Nat → m Unit
  /-- Holds until the run is interrupted. -/
  isRunning : m Bool
  /-- The rounds after which a wait or the passes of a program are given up. -/
  patience : Nat

/-- The devices of a run and the time since their status was read. -/
structure Watch where
  devices : Snapshot
  elapsed : Nat
  deriving Repr, Inhabited

/-- A device status that is read again whenever the interval has passed. -/
structure Reload where
  path : String
  /-- The interval in nanoseconds. -/
  interval : Nat
  deriving DecidableEq, Repr

namespace Station

variable {m : Type → Type} [Monad m]

/-- The watch after a time. A status that cannot be read changes nothing. -/
def afterSleep (station : Station m) (reload : Option Reload) (length : Nat) (w : Watch) : m Watch :=
  match reload with
  | none => return w
  | some ⟨path, interval⟩ =>
    let elapsed := w.elapsed + length
    if elapsed < interval then return { w with elapsed }
    else do
      match ← Snapshot.load station.disk path with
      | .ok devices => return ⟨devices, 0⟩
      | .error _ => return { w with elapsed := 0 }

/-- What a station does about an event. -/
def react (station : Station m) (reload : Option Reload) : Event → StateT Watch m Unit
  | .log value => station.console.line value.display
  | .alert value => station.console.errorLine s!"ALERT: {value.display}"
  | .sleep length => do
    station.sleep length
    set (← station.afterSleep reload length (← get))
  | .active _ => return ()
  | .runner _ => return ()

/-- Writes a command of a run to the output and, in a simulation, carries it out. -/
def deliver (station : Station m) (simulate : Bool) (command : DeviceCommand) :
    StateT Watch m (Except String Unit) := do
  station.console.line command.toJson.compact
  if simulate then modify fun w => { w with devices := w.devices.apply command }
  return .ok ()

/-- The surroundings of a run at a station. -/
def host (station : Station m) (tick : Nat) (maxPasses : Option Nat) (simulate : Bool)
    (reload : Option Reload) : Host (StateT Watch m) where
  tick := tick
  maxPasses := maxPasses
  isRunning := station.isRunning
  snapshot := return (← get).devices
  emit := station.react reload
  runner? block := (DeviceCommand.ofBlock? block).map (station.deliver simulate)

end Station

end Signalbox.CommandLine
