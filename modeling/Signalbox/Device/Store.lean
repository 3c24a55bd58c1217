import Signalbox.Device.Status
import Signalbox.Files.Disk

/-!
# Stored device statuses

The device status is read from a file.
-/

namespace Signalbox

/-- A reason why there is no device status. -/
inductive DeviceError where
  | status (e : StatusError)
  | disk (path : String) (e : DiskError)
  deriving Repr

namespace DeviceError

/-- The wording of an error. -/
def message : DeviceError → String
  | .status e => e.message
  | .disk path e => s!"failed to read {path}: {e.message}"

/-- The message of the error below, if there is one. -/
def source? : DeviceError → Option String
  | .status (.unreadable fault) => some fault.message
  | .status (.shape _) => none
  | .disk _ e => some e.message

end DeviceError

/-- Reads the device status in a file. -/
def Snapshot.load [Monad m] (disk : Disk m) (path : String) : m (Except DeviceError Snapshot) := do
  match ← disk.read path with
  | .error e => return .error (.disk path e)
  | .ok text => return (readStatus text).mapError .status

end Signalbox
