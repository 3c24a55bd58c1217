import Signalbox.Config.Document
import Signalbox.Files.Disk
import Signalbox.Files.Path

/-!
# The stored configuration

The configuration is stored in one file. Its path is named on the command line or by the environment, or it
is the usual one in the home directory. A file that nothing on the command line names is created when it is
missing.
-/

namespace Signalbox

/-- What the environment says about the place of the configuration. -/
structure ConfigPlace where
  /-- The path in the variable for it, if that is set. -/
  environment : Option String
  /-- The home directory, if there is one. -/
  home : Option String
  deriving DecidableEq, Repr

/-- A reason why there is no configuration, or why it cannot be stored. -/
inductive ConfigError where
  | noHome
  | missing (path : String)
  | unreadable (path : String) (e : DiskError)
  | malformed (path : String) (fault : ConfigFault)
  | noDirectory (e : DiskError)
  | unwritable (path : String) (e : DiskError)
  deriving Repr

namespace ConfigError

/-- The messages of an error and of those below it. -/
def chain : ConfigError → List String
  | .noHome => ["Could not find home directory"]
  | .missing path => [s!"config file not found: {path}"]
  | .unreadable path e => [s!"Failed to read config file: {path}", e.message]
  | .malformed path fault => [s!"Failed to parse config file: {path}", fault.message]
  | .noDirectory e => [e.message]
  | .unwritable path e => [s!"Failed to write config file: {path}", e.message]

/-- The wording of an error with all that led to it. -/
def message (e : ConfigError) : String :=
  String.intercalate ": " e.chain

end ConfigError

/-- A reason why a configuration file cannot be verified. -/
inductive VerifyError where
  | missing (path : String)
  | unreadable (path : String) (e : DiskError)
  | malformed (fault : ConfigFault)
  deriving Repr

/-- The wording of an error. -/
def VerifyError.message : VerifyError → String
  | .missing path => s!"config file not found: {path}"
  | .unreadable path e => s!"failed to read config file: {path}: {e.message}"
  | .malformed fault => s!"invalid JSON: {fault.message}"

/-- The usual path of the configuration in the home directory. -/
def ConfigPlace.usual (home : String) : String :=
  Path.join (Path.join home ".railblocks") "config.json"

/-- The path of the configuration. The one named on the command line goes first, then the environment's. -/
def ConfigPlace.path (place : ConfigPlace) (named : Option String) : Except ConfigError String :=
  match named.or place.environment with
  | some path => .ok path
  | none =>
    match place.home with
    | some home => .ok (usual home)
    | none => .error .noHome

namespace Config

variable {m : Type → Type} [Monad m]

/-- Reads the configuration in a file. -/
def readFile (disk : Disk m) (path : String) : m (Except ConfigError Config) := do
  match ← disk.read path with
  | .error e => return .error (.unreadable path e)
  | .ok text => return (read text).mapError (.malformed path)

/-- Writes the configuration to a file. -/
def writeFile (disk : Disk m) (path : String) (c : Config) : m (Except ConfigError Unit) := do
  match ← disk.write path c.write with
  | .error e => return .error (.unwritable path e)
  | .ok () => return .ok ()

/-- Writes the configuration to a file, whose directory is created if need be. -/
def save (disk : Disk m) (path : String) (c : Config) : m (Except ConfigError Unit) := do
  match Path.parent? path with
  | none => writeFile disk path c
  | some directory =>
    match ← disk.createDirectories directory with
    | .error e => return .error (.noDirectory e)
    | .ok () => writeFile disk path c

/-- Reads the configuration. When no path is named and there is no file, the default one is written. -/
def load (disk : Disk m) (place : ConfigPlace) (named : Option String) :
    m (Except ConfigError Config) := do
  match place.path named with
  | .error e => return .error e
  | .ok path =>
    if ← disk.exists? path then readFile disk path
    else
      match named with
      | some _ => return .error (.missing path)
      | none =>
        match ← save disk path default with
        | .error e => return .error e
        | .ok () => return .ok default

/-- The problems of the configuration in a file. -/
def verify (disk : Disk m) (path : String) : m (Except VerifyError (List ConfigProblem)) := do
  if ← disk.exists? path then
    match ← disk.read path with
    | .error e => return .error (.unreadable path e)
    | .ok text =>
      match read text with
      | .error fault => return .error (.malformed fault)
      | .ok c => return .ok c.problems
  else return .error (.missing path)

end Config

end Signalbox
