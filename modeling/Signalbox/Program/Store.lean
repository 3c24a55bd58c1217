import Signalbox.Files.Disk
import Signalbox.Files.Path
import Signalbox.Program.Document

/-!
# Stored programs

A program is stored in a file. It is written to a second file first, which then takes the place of the first
one, so that the file always holds a whole program.
-/

namespace Signalbox

/-- A reason why a program cannot be read or written. -/
inductive ProgramError where
  | malformed (e : Json.Error)
  | disk (path : String) (e : DiskError)
  deriving Repr

namespace ProgramError

/-- The message of the error below. -/
def source : ProgramError → String
  | .malformed e => e.message .document
  | .disk _ e => e.message

/-- The wording of an error. -/
def message : ProgramError → String
  | .malformed e => s!"invalid program JSON: {e.message .document}"
  | .disk path e => s!"failed to access {path}: {e.message}"

end ProgramError

namespace Program

variable {m : Type → Type} [Monad m]

/-- Reads the program in a file. -/
def load (disk : Disk m) (path : String) : m (Except ProgramError Program) := do
  match ← disk.read path with
  | .error e => return .error (.disk path e)
  | .ok text => return (read text).mapError .malformed

/-- The ending of the file that a program is written to first. -/
def draftEnding : String := "json.tmp"

/-- Writes the text of a program to a file by way of a second one. -/
def replaceFile (disk : Disk m) (path text : String) : m (Except ProgramError Unit) := do
  let draft := Path.withEnding path draftEnding
  match ← disk.write draft text with
  | .error e => return .error (.disk draft e)
  | .ok () =>
    match ← disk.rename draft path with
    | .error e => return .error (.disk path e)
    | .ok () => return .ok ()

/-- Writes a program to a file, whose directory is created if need be. -/
def save (disk : Disk m) (path : String) (p : Program) : m (Except ProgramError Unit) := do
  match Path.parent? path with
  | none => replaceFile disk path p.write
  | some "" => replaceFile disk path p.write
  | some directory =>
    match ← disk.createDirectories directory with
    | .error e => return .error (.disk directory e)
    | .ok () => replaceFile disk path p.write

end Program

end Signalbox
