/-!
# Disks

A `Disk` is what the program can do with files. It does not say where they are.
-/

namespace Signalbox

/-- A reason why a file cannot be used. -/
inductive DiskError where
  | notFound
  | alreadyExists
  | notDirectory
  | isDirectory
  /-- Something else, in the words of the system. -/
  | other (message : String)
  deriving DecidableEq, Repr

/-- The wording of an error. -/
def DiskError.message : DiskError → String
  | .notFound => "No such file or directory (os error 2)"
  | .alreadyExists => "File exists (os error 17)"
  | .notDirectory => "Not a directory (os error 20)"
  | .isDirectory => "Is a directory (os error 21)"
  | .other message => message

/-- What can be done with files, whose paths are texts. -/
structure Disk (m : Type → Type) where
  /-- Holds of the paths of files and directories. -/
  exists? : String → m Bool
  read : String → m (Except DiskError String)
  /-- Writes a text in place of what the file may have held. -/
  write : String → String → m (Except DiskError Unit)
  /-- Gives a file another path, in place of the file that may have had it. -/
  rename : String → String → m (Except DiskError Unit)
  /-- Creates a directory and those that it lies in, unless they are there. -/
  createDirectories : String → m (Except DiskError Unit)

end Signalbox
