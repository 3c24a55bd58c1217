import Signalbox.Condition.Grammar
import Signalbox.Device.Snapshot

/-!
# Checking conditions

A condition is checked against a snapshot of the devices.
-/

namespace Signalbox.Condition

/-- Whether a condition holds of a snapshot that knows its device. -/
def evaluate (c : Condition) (s : Snapshot) : Except ConditionError Bool :=
  match s.get? c.device with
  | some device => .ok (c.operator.holds (device.numeric c.property) c.literal)
  | none => .error (.unknownDevice c.device)

theorem evaluate_of_known {c : Condition} {s : Snapshot} {device : Device} (h : s.get? c.device = some device) :
    c.evaluate s = .ok (c.operator.holds (device.numeric c.property) c.literal) := by
  rw [evaluate, h]

theorem evaluate_of_unknown {c : Condition} {s : Snapshot} (h : s.get? c.device = none) :
    c.evaluate s = .error (.unknownDevice c.device) := by
  rw [evaluate, h]

/-- Reads a condition and checks it. -/
def check (input : String) (s : Snapshot) : Except ConditionError Bool := do
  (← read input).evaluate s

end Signalbox.Condition
