import Signalbox.CommandLine.Grammar
import Signalbox.CommandLine.Station
import Signalbox.Editor.Move
import Signalbox.Program.Outline
import Signalbox.Program.Problems

/-!
# Carrying out commands

`Station.perform` carries out an invocation and gives the exit code. The configuration is read before
anything else, and a failure to read it counts only for the commands that need it.
-/

namespace Signalbox.CommandLine

/-- A value of the command line: a number stays a number, and anything else is a text. -/
def readValue (text : String) : Scalar :=
  match Json.read (String.ofList (Text.trim text.toList)) with
  | .ok (.num n) => .number n
  | _ => .text text

/-- A field that a new block of a type needs. -/
def needed (name : String) (field : Option String) : Except Failure String :=
  match field with
  | some value => .ok value
  | none => .error (refuse .arguments s!"device-set needs --{name}")

/-- The kind of a new block: the fields of its type that were given, and defaults for the others. -/
def NewFields.kind (fields : NewFields) (type : BlockType) : Except Failure Kind :=
  let value (default : Scalar) := (fields.value.map readValue).getD default
  match type with
  | .loop => .ok (.container (.loop (fields.count.getD BlockType.defaultLoopCount)) [])
  | .branch => .ok (.container (.branch (fields.condition.getD "")) [])
  | .wait => .ok (.statement (.wait (fields.condition.getD "")))
  | .sleep => .ok (.statement (.sleep (value BlockType.defaultSleep)))
  | .log => .ok (.statement (.log (value BlockType.defaultValue)))
  | .alert => .ok (.statement (.alert (value BlockType.defaultValue)))
  | .deviceSet => do
    let device ← needed "device" fields.device
    let prop ← needed "prop" fields.prop
    return .statement (.deviceSet device prop (value BlockType.defaultValue))
  | .once | .forever | .dummy => .ok type.defaultKind

/-- An error of a move as a cause. -/
def Cause.ofMove (e : MoveError) : Cause :=
  match e with
  | .edit e => .edit e
  | .rejected .. => .refused ExitCode.arguments.toInt e.message []
  | .noAnchor .. => .refused ExitCode.arguments.toInt e.message []
  | .nothing _ => .other e.message

/-- The outcome of a step, with a failure in place of its error. -/
def orFail (cause : ε → Cause) (outcome : Except ε α) : Except Failure α :=
  outcome.mapError fun e => .ofCause (cause e)

namespace Station

variable {m : Type → Type} [Monad m]

/-- Does something that may go wrong as part of a command. -/
def attempt (cause : ε → Cause) (action : m (Except ε α)) : ExceptT Failure m α :=
  ExceptT.mk (return orFail cause (← action))

/-- The configuration, for a command that needs it. -/
def requireConfig (config : Except ConfigError Config) : Except Failure Config :=
  config.mapError fun e => refuse .config e.message

/-- Writes a new program. -/
def createProgram (station : Station m) (mode : OutputMode) (path : String) (force : Bool) :
    ExceptT Failure m Unit := do
  if (← station.disk.exists? path) && !force then
    throw (refuse .arguments s!"{path} already exists (use --force to overwrite)")
  attempt .program (Program.starter.save station.disk path)
  station.console.result mode
    (.map [("path", .str path), ("blocks", .ofNat Program.starter.blocks.length)])
    s!"Created {path}\n"

/-- Looks for what is wrong with a program. -/
def checkProgram (station : Station m) (mode : OutputMode) (path : String) :
    ExceptT Failure m Unit := do
  let p ← attempt .program (Program.load station.disk path)
  let problems := p.problems
  if ¬ problems.isEmpty then
    throw (.ofCause (.refused ExitCode.program.toInt
      s!"{problems.length} problem(s) in {path}" problems))
  station.console.result mode
    (.map [("program", .str path), ("blocks", .ofNat p.ids.length), ("valid", .bool true)])
    s!"✓ Program is valid: {path}\n"

/-- Shows the outline of a program. -/
def showTree (station : Station m) (mode : OutputMode) (path : String) :
    ExceptT Failure m Unit := do
  let p ← attempt .program (Program.load station.disk path)
  station.console.result mode (.map [("program", p.toJson)]) p.outline

/-- Adds a block to a stored program. -/
def addBlock (station : Station m) (mode : OutputMode) (config : Except ConfigError Config)
    (path : String) (type : BlockType) (fields : NewFields) : ExceptT Failure m Unit := do
  let config ← requireConfig config
  if type = .dummy then
    throw (refuse .arguments "dummy holders are created by moves, not added")
  let p ← attempt .program (Program.load station.disk path)
  let kind ← fields.kind type
  let (id, d) := (Diagram.ofProgram p config.settings.spawnPosition).addBlock (← station.draw) kind
  attempt .program (d.program.save station.disk path)
  let dummy := match d.program.parent? id with
    | some parent => [("dummy", Json.str parent.id)]
    | none => []
  station.console.result mode
    (.map ([("id", .str id), ("type", .str type.name)] ++ dummy)) s!"{id}\n"

/-- Moves a block of a stored program. -/
def moveBlock (station : Station m) (mode : OutputMode) (path block onto : String)
    (snap : SnapType) : ExceptT Failure m Unit := do
  let p ← attempt .program (Program.load station.disk path)
  let (placement, p) ← orFail Cause.ofMove (p.move block onto snap)
  attempt .program (p.save station.disk path)
  station.console.result mode
    (.map ([("block", .str block), ("onto", .str onto)] ++ placement.outcome.entries))
    s!"Moved {placement.moved} block(s) into {placement.parent} at {placement.index}\n"

/-- The device status file for evaluating a condition. -/
def statusFile (config : Except ConfigError Config) (named : Option String) :
    Except Failure String :=
  match named, requireConfig config with
  | some path, _ => .ok path
  | none, .error f => .error f
  | none, .ok config =>
    match config.devicesFile with
    | some path => .ok path
    | none => .error
      (refuse .arguments "no device status file: pass --devices or set devices_file in config")

/-- Evaluates a condition. -/
def evalCondition (station : Station m) (mode : OutputMode) (config : Except ConfigError Config)
    (condition : String) (devices : Option String) : ExceptT Failure m Unit := do
  let path ← statusFile config devices
  let snapshot ← attempt .device (Snapshot.load station.disk path)
  let result ← orFail .condition (Condition.check condition snapshot)
  station.console.result mode
    (.map [("condition", .str condition), ("result", .bool result)]) s!"{result}\n"

/-- The failure of a run. -/
def haltFailure : Halt → Failure
  | .failed e => .ofCause (.run e)
  | .outOfPatience => .ofCause (.other "the program does not end")

/-- Runs a stored program. -/
def runProgram (station : Station m) (mode : OutputMode) (config : Except ConfigError Config)
    (path : String) (devices : Option String) (simulate : Bool) (passes : Option UInt64) :
    ExceptT Failure m Unit := do
  let config ← requireConfig config
  let p ← attempt .program (Program.load station.disk path)
  let file := devices.or config.devicesFile
  let snapshot ← match file with
    | some file => attempt .device (Snapshot.load station.disk file)
    | none => pure .empty
  let interval := max config.settings.pollInterval.toNat 1 * 1000000
  let reload := if simulate then none else file.map fun path => ⟨path, interval⟩
  let host := station.host (tickLength config.settings.tickHz.toNat) (passes.map (·.toNat))
    simulate reload
  let outcome ← (Run.execute host station.patience p).run ⟨snapshot, 0⟩
  match outcome.1 with
  | .error halt => throw (haltFailure halt)
  | .ok summary =>
    match mode with
    | .json => station.console.line (response summary.toJson).compact
    | .text => if summary.cancelled then station.console.errorLine "Stopped"
    | .quiet => return ()

/-- Carries out a command about the configuration. -/
def configure (station : Station m) (mode : OutputMode) (config : Except ConfigError Config)
    (named : Option String) (command : ConfigCommand) : ExceptT Failure m Unit := do
  match command with
  | .show => station.console.line (← requireConfig config).write
  | .path => station.console.line (← orFail .config (station.place.path named))
  | .set key value =>
    let config ← requireConfig config
    match config.set key value with
    | .error e => throw (refuse .arguments e.message)
    | .ok config =>
      let path ← orFail .config (station.place.path named)
      attempt .config (config.save station.disk path)
      station.console.textLine mode s!"Set {key} = {value}"
  | .default => station.console.line Config.default.write
  | .verify =>
    let path ← orFail .config (station.place.path named)
    let refusal (e : VerifyError) : Cause := .refused ExitCode.config.toInt e.message []
    let problems ← attempt refusal (Config.verify station.disk path)
    if ¬ problems.isEmpty then
      throw (.ofCause (.refused ExitCode.config.toInt
        s!"Configuration has {problems.length} error(s): {path}" (problems.map (·.message))))
    station.console.textLine mode s!"✓ Configuration is valid: {path}"

/-- Carries out a command with the configuration that was read. -/
def execute (station : Station m) (inv : Invocation) (mode : OutputMode)
    (config : Except ConfigError Config) : ExceptT Failure m Unit :=
  match inv.command with
  | .new path force => station.createProgram mode path force
  | .check path => station.checkProgram mode path
  | .tree path => station.showTree mode path
  | .add path type fields => station.addBlock mode config path type fields
  | .move path block onto snap => station.moveBlock mode path block onto snap
  | .eval condition devices => station.evalCondition mode config condition devices
  | .run path devices simulate passes =>
    station.runProgram mode config path devices simulate passes
  | .config command => station.configure mode config inv.config command

/-- Carries out an invocation and gives the exit code. -/
def perform (station : Station m) (inv : Invocation) : m Int := do
  let mode := OutputMode.ofFlags inv.json inv.quiet
  let config ← Config.load station.disk station.place inv.config
  match ← (station.execute inv mode config).run with
  | .ok () => return ExitCode.success.toInt
  | .error f =>
    station.console.failure mode f
    return f.code

end Station

end Signalbox.CommandLine
