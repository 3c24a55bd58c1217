import Signalbox.CommandLine.Bench
import Signalbox.Condition.Check
import Signalbox.Editor.Drag
import Signalbox.Main
import Signalbox.Run.Script
import Signalbox.Snap.Document
import Signalbox.Proofs.CommandLine.Configured
import Signalbox.Proofs.CommandLine.Unsaved
import Signalbox.Proofs.Condition.Grammar
import Signalbox.Proofs.Device.Writes
import Signalbox.Proofs.Editor.Addition
import Signalbox.Proofs.Editor.Conservation
import Signalbox.Proofs.Editor.Detach
import Signalbox.Proofs.Editor.Failure
import Signalbox.Proofs.Editor.Holders
import Signalbox.Proofs.Editor.Invariant
import Signalbox.Proofs.Editor.Rearrange
import Signalbox.Proofs.Editor.Undo
import Signalbox.Proofs.Editor.Update
import Signalbox.Proofs.Program.Breaches
import Signalbox.Proofs.Program.Document
import Signalbox.Proofs.Program.Lookup
import Signalbox.Proofs.Program.Outline
import Signalbox.Proofs.Program.Respelled
import Signalbox.Proofs.Run.Checked
import Signalbox.Proofs.Run.Devices
import Signalbox.Proofs.Run.Ending
import Signalbox.Proofs.Run.Limit
import Signalbox.Proofs.Run.Unrolling
import Signalbox.Proofs.Run.Waiting
import Signalbox.Proofs.Snap.Nearest
