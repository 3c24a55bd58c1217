import Signalbox.Condition.Basic
import Signalbox.Config.Store
import Signalbox.Device.Store
import Signalbox.Editor.Detach
import Signalbox.Program.Store
import Signalbox.Run.Basic

/-!
# Failures

A failure is why a command did not succeed: a cause, and what was going on when it came up. The cause decides
the exit code, whatever was going on.
-/

namespace Signalbox.CommandLine

/-- The exit codes. -/
inductive ExitCode where
  | success
  | general
  /-- Arguments or an edit that cannot be carried out. -/
  | arguments
  | config
  | program
  | condition
  | run
  deriving DecidableEq, Repr

/-- The number of an exit code. -/
def ExitCode.toInt : ExitCode → Int
  | .success => 0
  | .general => 1
  | .arguments => 2
  | .config => 3
  | .program => 4
  | .condition => 5
  | .run => 6

/-- What a command failed of. -/
inductive Cause where
  /-- A refusal with an exit code of its own, and the problems that it lists. -/
  | refused (code : Int) (message : String) (problems : List String)
  | program (e : ProgramError)
  | condition (e : ConditionError)
  | edit (e : EditError)
  | run (e : RunError)
  | device (e : DeviceError)
  | config (e : ConfigError)
  | other (message : String)
  deriving Repr

namespace Cause

/-- The exit code of a cause. -/
def code : Cause → Int
  | .refused code .. => code
  | .program _ => ExitCode.program.toInt
  | .condition _ => ExitCode.condition.toInt
  | .edit _ => ExitCode.arguments.toInt
  | .run _ => ExitCode.run.toInt
  | .device _ => ExitCode.general.toInt
  | .config _ => ExitCode.general.toInt
  | .other _ => ExitCode.general.toInt

/-- The messages of a cause and of the errors below it. -/
def chain : Cause → List String
  | .refused _ message _ => [message]
  | .program e => [e.message, e.source]
  | .condition e => [e.message]
  | .edit e => [e.message]
  | .run e =>
    match e with
    | .condition _ reason => [e.message, reason.message]
    | .unknownType .. => [e.message]
    | .runner _ message => [e.message, message]
  | .device e => e.message :: e.source?.toList
  | .config e => e.chain
  | .other message => [message]

/-- The problems that a cause lists. -/
def problems : Cause → List String
  | .refused _ _ problems => problems
  | _ => []

end Cause

/-- A cause and what was going on, the outermost first. -/
structure Failure where
  contexts : List String
  cause : Cause
  deriving Repr

namespace Failure

/-- The failure of a cause alone. -/
def ofCause (cause : Cause) : Failure := ⟨[], cause⟩

/-- The failure of something that was part of something larger. -/
def within (f : Failure) (context : String) : Failure :=
  { f with contexts := context :: f.contexts }

/-- The exit code. -/
def code (f : Failure) : Int := f.cause.code

/-- All messages, from the outermost to the innermost. -/
def chain (f : Failure) : List String := f.contexts ++ f.cause.chain

/-- The outermost message. -/
def message (f : Failure) : String := f.chain.headD ""

/-- The messages in one line. -/
def full (f : Failure) : String := String.intercalate ": " f.chain

/-- The problems that the cause lists. -/
def problems (f : Failure) : List String := f.cause.problems

end Failure

/-- A refusal with one of the exit codes. -/
def refuse (code : ExitCode) (message : String) : Failure :=
  .ofCause (.refused code.toInt message [])

end Signalbox.CommandLine
