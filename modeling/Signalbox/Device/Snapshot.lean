import Signalbox.Block.Basic
import Signalbox.Device.Dict

/-!
# Devices

A snapshot holds what is known of the devices at one moment. It changes by commands, each of which writes
one property of one device, or of every device that the snapshot knows.
-/

namespace Signalbox

/-- A device and its properties. -/
structure Device where
  id : String
  properties : Dict Json
  deriving BEq, Repr, Inhabited

/-- The number that a property's value stands for. Lists and maps stand for none. -/
def Json.toFloat : Json → Float
  | .num n => n.toFloat
  | .str s => numericText s
  | .bool true => 1
  | .bool false => 0
  | .null => 0
  | .list _ => 0 / 0
  | .map _ => 0 / 0

namespace Device

/-- The value of a property. -/
def get? (d : Device) (property : String) : Option Json :=
  d.properties.get? property

/-- The number that a property stands for; one that the device does not have is NaN. -/
def numeric (d : Device) (property : String) : Float :=
  match d.get? property with
  | some value => value.toFloat
  | none => 0 / 0

/-- Writes a property. -/
def set (d : Device) (property : String) (value : Scalar) : Device :=
  { d with properties := d.properties.insert property value.toJson }

/-- The device as a document. -/
def toJson (d : Device) : Json :=
  .map [("id", .str d.id), ("properties", .map d.properties.entries)]

end Device

/-- A write of one property. -/
structure DeviceCommand where
  device : String
  prop : String
  value : Scalar
  deriving DecidableEq, BEq, Repr, Inhabited

namespace DeviceCommand

/-- The name that stands for every known device. -/
def all : String := "all"

/-- The write that a block asks for. -/
def ofBlock? : Block → Option DeviceCommand
  | .statement _ _ (.deviceSet device prop value) => some ⟨device, prop, value⟩
  | _ => none

/-- The command in one line. -/
def display (c : DeviceCommand) : String :=
  s!"{c.device}:{c.prop}={c.value.display}"

/-- The command as a document. -/
def toJson (c : DeviceCommand) : Json :=
  .map [("device", .str c.device), ("prop", .str c.prop), ("value", c.value.toJson)]

end DeviceCommand

/-- The devices known at one moment, by their ids. -/
structure Snapshot where
  devices : Dict Device
  deriving BEq, Repr, Inhabited

namespace Snapshot

/-- The snapshot that knows no device. -/
def empty : Snapshot := ⟨.empty⟩

/-- The device with an id. -/
def get? (s : Snapshot) (id : String) : Option Device :=
  s.devices.get? id

/-- The snapshot with a device, in place of the one with the same id. -/
def insert (s : Snapshot) (device : Device) : Snapshot :=
  ⟨s.devices.insert device.id device⟩

/-- Carries out a command. A device that is written to becomes known, and `all` reaches the devices that
are. -/
def apply (s : Snapshot) (c : DeviceCommand) : Snapshot :=
  if c.device = DeviceCommand.all then ⟨s.devices.map (·.set c.prop c.value)⟩
  else
    let device := (s.get? c.device).getD ⟨c.device, .empty⟩
    ⟨s.devices.insert c.device (device.set c.prop c.value)⟩

/-- The snapshot as a document. -/
def toJson (s : Snapshot) : Json :=
  .map (s.devices.entries.map fun (id, device) => (id, device.toJson))

end Snapshot

end Signalbox
