import Signalbox.Block.Document.Position
import Signalbox.Decimal.Count
import Signalbox.Editor.Diagram
import Signalbox.LogFilter
import Signalbox.Run.Basic

/-!
# The configuration

What the configuration holds, which of its values make sense, and how a single value is changed by its key.
-/

namespace Signalbox

/-- The settings of the editor and of runs. -/
structure Settings where
  /-- Passes and polls per second. -/
  tickHz : UInt32
  /-- The time in milliseconds after which the device status is read again. -/
  pollInterval : UInt64
  spawnPosition : Position
  /-- The log filter unless the environment has another one. -/
  logLevel : String
  deriving BEq, Repr, Inhabited

/-- The configuration. -/
structure Config where
  settings : Settings
  /-- The device status file of commands that name none. -/
  devicesFile : Option String
  deriving BEq, Repr, Inhabited

namespace Settings

/-- The settings where nothing else is said. -/
def default : Settings :=
  { tickHz := defaultTickHz.toUInt32
    pollInterval := 1000
    spawnPosition := defaultSpawnPosition
    logLevel := LogLevel.warn.name }

/-- The settings as a document. -/
def toJson (s : Settings) : Json :=
  .map [("tick_hz", .ofNat s.tickHz.toNat), ("poll_interval_ms", .ofNat s.pollInterval.toNat),
    ("spawn_position", s.spawnPosition.toJson),
    ("log_level", .str s.logLevel)]

end Settings

/-- A value of the configuration that makes no sense. -/
inductive ConfigProblem where
  | tickHz (hz : UInt32)
  | pollInterval
  | logLevel (text : String) (reason : LogFilterError)
  | devicesFile
  deriving DecidableEq, Repr

/-- The wording of a problem. -/
def ConfigProblem.message : ConfigProblem → String
  | .tickHz hz => s!"settings.tick_hz: {hz} out of range (1-1000)"
  | .pollInterval => "settings.poll_interval_ms: must be greater than 0"
  | .logLevel text reason => s!"settings.log_level: invalid filter '{text}': {reason.message}"
  | .devicesFile => "devices_file: must not be empty"

/-- A reason why a value cannot be changed. -/
inductive SetError where
  | unknownKey (key : String)
  | badNumber (text : String) (fault : NumberFault)
  | badLevel (text : String) (reason : LogFilterError)
  deriving DecidableEq, Repr

/-- The keys of the configuration. -/
def Config.keys : List String :=
  ["settings.tick_hz", "settings.poll_interval_ms", "settings.spawn_position.x",
    "settings.spawn_position.y", "settings.log_level", "devices_file"]

/-- The wording of an error. -/
def SetError.message : SetError → String
  | .unknownKey key =>
    s!"Unknown config key: {key}. Valid keys: " ++ String.intercalate ", " Config.keys
  | .badNumber text fault => s!"Invalid number: {text}: {fault.message}"
  | .badLevel text reason => s!"Invalid log level '{text}': {reason.message}"

namespace Config

/-- The configuration where nothing else is said. -/
def default : Config := ⟨.default, none⟩

/-- The configuration as a document. -/
def toJson (c : Config) : Json :=
  .map [("settings", c.settings.toJson),
    ("devices_file", match c.devicesFile with
      | some path => .str path
      | none => .null)]

/-- The values that make no sense, in the order of the document. -/
def problems (c : Config) : List ConfigProblem :=
  let s := c.settings
  let tick := if 1 ≤ s.tickHz ∧ s.tickHz ≤ 1000 then [] else [ConfigProblem.tickHz s.tickHz]
  let poll := if s.pollInterval = 0 then [ConfigProblem.pollInterval] else []
  let level := match LogFilter.read s.logLevel with
    | .ok _ => []
    | .error reason => [ConfigProblem.logLevel s.logLevel reason]
  let devices := if c.devicesFile = some "" then [ConfigProblem.devicesFile] else []
  tick ++ poll ++ level ++ devices

/-- A number that a value denotes. -/
def number (text : String) (read : Except NumberFault α) : Except SetError α :=
  read.mapError (.badNumber text)

/-- The configuration with a value in place of the one with a key. -/
def set (c : Config) (key value : String) : Except SetError Config :=
  let s := c.settings
  match key with
  | "settings.tick_hz" =>
    (number value (readCount UInt32.size value)).map fun n =>
      { c with settings := { s with tickHz := n.toUInt32 } }
  | "settings.poll_interval_ms" =>
    (number value (readCount UInt64.size value)).map fun n =>
      { c with settings := { s with pollInterval := n.toUInt64 } }
  | "settings.spawn_position.x" =>
    (number value (readFloat value)).map fun x =>
      { c with settings := { s with spawnPosition := { s.spawnPosition with x } } }
  | "settings.spawn_position.y" =>
    (number value (readFloat value)).map fun y =>
      { c with settings := { s with spawnPosition := { s.spawnPosition with y } } }
  | "settings.log_level" =>
    match LogFilter.read value with
    | .ok _ => .ok { c with settings := { s with logLevel := value } }
    | .error reason => .error (.badLevel value reason)
  | "devices_file" =>
    .ok { c with devicesFile := if value ∈ ["", "none", "null"] then none else some value }
  | key => .error (.unknownKey key)

end Config

end Signalbox
