import Signalbox.Program.Basic
import Signalbox.Run.Basic

/-!
# Running programs

A run does the first once container one time, and then the first forever container again and again, with a
tick of sleep between two passes. The surroundings are a `Host`: they are asked whether the run is to go
on before every pass and every block and at every poll of a wait, and a block that has begun is never cut
short.

Only waits and the passes of a forever container go on without a bound of their own. They stop after as
many rounds as the run has `patience`; a run that is out of patience has not ended.
-/

namespace Signalbox

/-- The surroundings of a run. -/
structure Host (m : Type → Type) where
  /-- The length of the sleeps between passes and between polls. -/
  tick : Nat
  /-- The number of passes after which a run ends. -/
  maxPasses : Option Nat
  isRunning : m Bool
  snapshot : m Snapshot
  emit : Event → m Unit
  /-- What the surroundings do for a block in place of its own meaning: nothing, or what fails with a
  message if it does. -/
  runner? : Block → Option (m (Except String Unit))

/-- A reason why a run has no summary: it failed, or it is out of patience. -/
inductive Halt where
  | failed (error : RunError)
  | outOfPatience
  deriving DecidableEq, Repr

namespace Run

variable {m : Type → Type} [Monad m]

/-- Does something a number of times, up to the first failure. -/
@[specialize] def times (body : m (Except Halt Unit)) : Nat → m (Except Halt Unit)
  | 0 => return .ok ()
  | n + 1 => do
    match ← body with
    | .error halt => return .error halt
    | .ok () => times body n

/-- Sleeps a tick at a time until the condition holds, it has no outcome, or the run is to end. -/
@[specialize] def poll (host : Host m) (block : String) (condition : Condition) :
    (patience : Nat) → m (Except Halt Unit)
  | 0 => return .error .outOfPatience
  | patience + 1 => do
    host.emit (.sleep host.tick)
    match condition.evaluate (← host.snapshot) with
    | .error reason => return .error (.failed (.condition block reason))
    | .ok true => return .ok ()
    | .ok false =>
      if ← host.isRunning then poll host block condition patience
      else return .ok ()

/-- Does what a runner of the surroundings does for a block. -/
@[specialize] def runWith (block : String) (runner : m (Except String Unit)) :
    m (Except Halt Unit) := do
  match ← runner with
  | .ok () => return .ok ()
  | .error message => return .error (.failed (.runner block message))

/-- Runs a statement that the surroundings do nothing for. -/
@[specialize] def runStatement (host : Host m) (patience : Nat) (id : String) :
    StatementKind → m (Except Halt Unit)
  | .sleep value => do
    host.emit (.sleep (sleepLength value))
    return .ok ()
  | .log value => do
    host.emit (.log value)
    return .ok ()
  | .alert value => do
    host.emit (.alert value)
    return .ok ()
  | .wait condition =>
    match Condition.read condition with
    | .error reason => return .error (.failed (.condition id reason))
    | .ok condition => poll host id condition patience
  | .deviceSet .. => return .error (.failed (.unknownType id .deviceSet))

/-- Runs the children of a container that the surroundings do nothing for, as often as it says. Once and
forever containers and dummies have no meaning inside another block. -/
@[specialize] def runContainer (host : Host m) (id : String) (kind : ContainerKind) (isEmpty : Bool)
    (children : m (Except Halt Unit)) : m (Except Halt Unit) :=
  match kind with
  | .loop count => if isEmpty then return .ok () else times children count.toNat
  | .branch condition =>
    match Condition.read condition with
    | .error reason => return .error (.failed (.condition id reason))
    | .ok condition => do
      match condition.evaluate (← host.snapshot) with
      | .error reason => return .error (.failed (.condition id reason))
      | .ok true => children
      | .ok false => return .ok ()
  | .once | .forever | .dummy => return .error (.failed (.unknownType id kind.type))

mutual

/-- Runs a block. -/
@[specialize] def runBlock (host : Host m) (patience : Nat) : Block → m (Except Halt Unit)
  | .container id position kind children =>
    match host.runner? (.container id position kind children) with
    | some runner => runWith id runner
    | none => runContainer host id kind children.isEmpty (runBlocks host patience children)
  | .statement id position kind =>
    match host.runner? (.statement id position kind) with
    | some runner => runWith id runner
    | none => runStatement host patience id kind

/-- Runs blocks one after the other, as long as the run is to go on. -/
@[specialize] def runBlocks (host : Host m) (patience : Nat) : List Block → m (Except Halt Unit)
  | [] => return .ok ()
  | block :: rest => do
    if ← host.isRunning then
      host.emit (.active (some block.id))
      match ← runBlock host patience block with
      | .error halt => return .error halt
      | .ok () =>
        host.emit (.active none)
        runBlocks host patience rest
    else return .ok ()

end

/-- Passes over the children of a forever container and gives the number of passes begun. -/
@[specialize] def passes (host : Host m) (body : m (Except Halt Unit)) :
    (patience : Nat) → (begun : Nat) → m (Except Halt Nat)
  | 0, _ => return .error .outOfPatience
  | patience + 1, begun => do
    if ← host.isRunning then
      match ← body with
      | .error halt => return .error halt
      | .ok () =>
        if host.maxPasses.any (· ≤ begun + 1) then return .ok (begun + 1)
        else
          host.emit (.sleep host.tick)
          passes host body patience (begun + 1)
    else return .ok begun

/-- The children of the first top-level container of a type. -/
def childrenOf (p : Program) (type : BlockType) : List Block :=
  match p.firstOfType? type with
  | some block => block.children
  | none => []

/-- Runs the once container and then the forever container. A container without children is passed
over. -/
@[specialize] def runProgram (host : Host m) (patience : Nat) (p : Program) :
    m (Except Halt RunSummary) := do
  let once := childrenOf p .once
  let forever := childrenOf p .forever
  match ← runBlocks host patience once with
  | .error halt => return .error halt
  | .ok () =>
    let begun ←
      if forever.isEmpty then pure (.ok 0)
      else passes host (runBlocks host patience forever) patience 0
    match begun with
    | .error halt => return .error halt
    | .ok begun =>
      return .ok { onceRan := ¬ once.isEmpty, foreverPasses := begun, cancelled := ¬ (← host.isRunning) }

/-- Runs a program. When a block fails, no block is active any more before the run ends. -/
@[specialize] def execute (host : Host m) (patience : Nat) (p : Program) :
    m (Except Halt RunSummary) := do
  match ← runProgram host patience p with
  | .error (.failed error) =>
    host.emit (.active none)
    return .error (.failed error)
  | outcome => return outcome

end Run

end Signalbox
