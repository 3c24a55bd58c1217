import Signalbox.Config.Basic
import Signalbox.Json.Decode
import Signalbox.Json.Printer
import Signalbox.Lenient.Reader

/-!
# Configuration documents

The configuration is written as a plain document and read as a lenient one. A group of values is a map, or a
list of them in the order in which they are written; values that are left out have their defaults, and only
a position needs both of its coordinates.

A count is read as a float, whose fraction is dropped and which is brought into the range of the count.
-/

namespace Signalbox

open Json (Error)

/-- A reason why a text is no configuration. -/
inductive ConfigFault where
  | malformed
  | wrong (e : Error)
  deriving Repr

/-- The wording of a fault. -/
def ConfigFault.message : ConfigFault → String
  | .malformed => "<syntax>"
  | .wrong e => e.message .settings

/-- The coordinates of a position, as far as they were given. -/
structure Position.Fields where
  x : Option Float := none
  y : Option Float := none

namespace Position

/-- Reads the coordinates; other entries are passed over. -/
def readLenient : Fields → List (Option String × Lenient) → Except Error Fields
  | fields, [] => .ok fields
  | fields, (key, value) :: rest => do
    match ← Lenient.textOr key with
    | "x" => readLenient { fields with x := ← Json.once "x" fields.x value.float } rest
    | "y" => readLenient { fields with y := ← Json.once "y" fields.y value.float } rest
    | _ =>
      value.skip
      readLenient fields rest

/-- The position that a lenient document describes. -/
def ofLenient : Lenient → Except Error Position
  | .map entries => do
    let fields ← readLenient {} entries
    let x ← Json.required "x" fields.x
    let y ← Json.required "y" fields.y
    return ⟨x, y⟩
  | .list [] => .error (.wrongLength 0 "struct Position with 2 elements")
  | .list [x] => do
    let _ ← x.float
    .error (.wrongLength 1 "struct Position with 2 elements")
  | .list (x :: y :: _) => do
    let x ← x.float
    let y ← y.float
    return ⟨x, y⟩
  | d => .error (d.mismatch "struct Position")

end Position

/-- The settings, as far as they were given. -/
structure Settings.Fields where
  tickHz : Option UInt32 := none
  pollInterval : Option UInt64 := none
  spawnPosition : Option Position := none
  logLevel : Option String := none

namespace Settings

/-- The keys of the settings, in the order in which they are written. -/
def keys : List String :=
  ["tick_hz", "poll_interval_ms", "spawn_position", "log_level"]

/-- Reads the settings; other entries are passed over. -/
def readLenient : Fields → List (Option String × Lenient) → Except Error Fields
  | fields, [] => .ok fields
  | fields, (key, value) :: rest => do
    match ← Lenient.textOr key with
    | "tick_hz" =>
      let tickHz ← Json.once "tick_hz" fields.tickHz (value.float.map (·.toUInt32))
      readLenient { fields with tickHz } rest
    | "poll_interval_ms" =>
      let pollInterval ←
        Json.once "poll_interval_ms" fields.pollInterval (value.float.map (·.toUInt64))
      readLenient { fields with pollInterval } rest
    | "spawn_position" =>
      let spawnPosition ←
        Json.once "spawn_position" fields.spawnPosition (Position.ofLenient value)
      readLenient { fields with spawnPosition } rest
    | "log_level" =>
      let logLevel ← Json.once "log_level" fields.logLevel (value.textAs "a string")
      readLenient { fields with logLevel } rest
    | _ =>
      value.skip
      readLenient fields rest

/-- The settings with the values given. -/
def ofFields (fields : Fields) : Settings :=
  { tickHz := fields.tickHz.getD default.tickHz
    pollInterval := fields.pollInterval.getD default.pollInterval
    spawnPosition := fields.spawnPosition.getD default.spawnPosition
    logLevel := fields.logLevel.getD default.logLevel }

/-- The entries of a list, each with the key that its place stands for. Items without one are not looked
at. -/
def byPlace (keys : List String) (items : List Lenient) : List (Option String × Lenient) :=
  (keys.map some).zip items

/-- The settings that a lenient document describes. -/
def ofLenient : Lenient → Except Error Settings
  | .map entries => (readLenient {} entries).map ofFields
  | .list items => (readLenient {} (byPlace keys items)).map ofFields
  | d => .error (d.mismatch "struct Settings")

end Settings

/-- The groups of the configuration, as far as they were given. -/
structure Config.Fields where
  settings : Option Settings := none
  devicesFile : Option (Option String) := none

namespace Config

/-- A path or null. -/
def pathOfLenient : Lenient → Except Error (Option String)
  | .null => .ok none
  | d => (d.textAs "path string").map some

/-- Reads the groups; other entries are passed over. -/
def readLenient : Fields → List (Option String × Lenient) → Except Error Fields
  | fields, [] => .ok fields
  | fields, (key, value) :: rest => do
    match ← Lenient.textOr key with
    | "settings" =>
      let settings ← Json.once "settings" fields.settings (Settings.ofLenient value)
      readLenient { fields with settings } rest
    | "devices_file" =>
      let devicesFile ← Json.once "devices_file" fields.devicesFile (pathOfLenient value)
      readLenient { fields with devicesFile } rest
    | _ =>
      value.skip
      readLenient fields rest

/-- The configuration with the groups given. -/
def ofFields (fields : Fields) : Config :=
  { settings := fields.settings.getD .default
    devicesFile := fields.devicesFile.getD none }

/-- The configuration that a lenient document describes. -/
def ofLenient : Lenient → Except Error Config
  | .map entries => (readLenient {} entries).map ofFields
  | .list items => (readLenient {} (Settings.byPlace ["settings", "devices_file"] items)).map ofFields
  | d => .error (d.mismatch "struct Config")

/-- Reads a configuration document. -/
def read (text : String) : Except ConfigFault Config :=
  match Lenient.read? text with
  | none => .error .malformed
  | some d => (ofLenient d).mapError .wrong

/-- Writes a configuration document. -/
def write (c : Config) : String :=
  c.toJson.pretty

end Config

end Signalbox
