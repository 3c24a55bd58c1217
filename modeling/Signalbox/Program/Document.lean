import Signalbox.Block.Document
import Signalbox.Json.Printer
import Signalbox.Json.Reader
import Signalbox.Program.Basic

/-!
# Program documents

A program is saved as a list of maps, one per block. `Program.write` writes it and `Program.read` reads
it, with some freedom in the spelling: keys in any order, keys that mean nothing to a block, fields left out
that have their default, `loco-set` for `device-set` and `property` for `prop`, the number of a type for its
name, and a position as a list of two.

Reading reports the first problem of the text.
-/

namespace Signalbox

open Json (Error Draft)

namespace Program

/-- Reads a program document. -/
def read (text : String) : Except Error Program := do
  match Draft.read text with
  | (.list items stop, trailing) =>
    let blocks ←
      match Json.enter? Json.depthLimit with
      | none => .error (.malformed .tooDeep)
      | some inner => Block.ofDrafts inner items
    Json.orFault (Draft.pass stop)
    Json.orFault (Draft.pass trailing)
    return ⟨blocks⟩
  | (draft, _) => .error (draft.mismatch "a sequence")

/-- The program as a document. -/
def toJson (p : Program) : Json :=
  .list (Block.toItems p.blocks)

/-- Writes a program document. -/
def write (p : Program) : String :=
  p.toJson.pretty

end Program

end Signalbox
