import Signalbox.Device.Snapshot
import Signalbox.Json.Reader

/-!
# Device statuses

A device status is a document that says what the devices are: a list of maps, each with a name or an id
among its properties, or a map from ids to properties.
-/

namespace Signalbox

/-- A reason why a text is no device status. -/
inductive StatusError where
  | unreadable (fault : Json.Fault)
  | shape (problem : String)
  deriving DecidableEq, Repr

/-- The wording of an error. -/
def StatusError.message : StatusError → String
  | .unreadable fault => s!"invalid device status JSON: {fault.message}"
  | .shape problem => s!"unexpected device status shape: {problem}"

namespace Snapshot

/-- The id among a device's properties: the value of `name` or, without one, of `id`. -/
def idOf? (properties : List (String × Json)) : Option String :=
  match (properties.lookup "name").or (properties.lookup "id") with
  | some (.str id) => some id
  | _ => none

/-- Adds the devices of a list, whose items are counted from an index on. -/
def addItems (s : Snapshot) (index : Nat) : List Json → Except StatusError Snapshot
  | [] => .ok s
  | .map properties :: rest =>
    match idOf? properties with
    | some id => addItems (s.insert ⟨id, ⟨properties⟩⟩) (index + 1) rest
    | none => .error (.shape s!"status[{index}] has no 'name' or 'id'")
  | _ :: _ => .error (.shape s!"status[{index}] must be an object")

/-- Adds the devices of a map. -/
def addEntries (s : Snapshot) : List (String × Json) → Except StatusError Snapshot
  | [] => .ok s
  | (id, .map properties) :: rest => addEntries (s.insert ⟨id, ⟨properties⟩⟩) rest
  | (id, _) :: _ => .error (.shape s!"status.{id} must be an object")

/-- The snapshot that a document with sorted keys describes. -/
def ofStatus : Json → Except StatusError Snapshot
  | .list items => addItems .empty 0 items
  | .map entries => addEntries .empty entries
  | _ => .error (.shape "device status must be a list or an object")

/-- Reads a device status. -/
def readStatus (text : String) : Except StatusError Snapshot :=
  match Json.read text with
  | .ok status => ofStatus status.canonical
  | .error fault => .error (.unreadable fault)

end Snapshot

end Signalbox
