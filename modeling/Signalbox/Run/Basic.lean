import Signalbox.Condition.Check

/-!
# Runs

What a run of a program shows of itself, how it ends, and the lengths of its sleeps.
-/

namespace Signalbox

/-- What a run does that its surroundings notice. -/
inductive Event where
  /-- A block begins, or the block that began last ends. -/
  | active (id : Option String)
  | log (value : Scalar)
  | alert (value : Scalar)
  /-- A runner of the surroundings has run a block. -/
  | runner (id : String)
  | sleep (nanoseconds : Nat)
  deriving BEq, Repr, Inhabited

/-- A reason why a run fails. -/
inductive RunError where
  | condition (block : String) (reason : ConditionError)
  | unknownType (block : String) (type : BlockType)
  | runner (block : String) (message : String)
  deriving DecidableEq, Repr

namespace RunError

/-- The id of the block that failed. -/
def block : RunError → String
  | .condition block _ => block
  | .unknownType block _ => block
  | .runner block _ => block

/-- The wording of an error. -/
def message : RunError → String
  | .condition block reason => s!"block {block}: {reason.message}"
  | .unknownType block type => s!"cannot run block type {type.name} (block {block})"
  | .runner block message => s!"runner for block {block} failed: {message}"

end RunError

/-- What a run that did not fail has done. -/
structure RunSummary where
  onceRan : Bool
  foreverPasses : Nat
  cancelled : Bool
  deriving DecidableEq, Repr, Inhabited

/-- The summary as a document. -/
def RunSummary.toJson (s : RunSummary) : Json :=
  .map [("once_ran", .bool s.onceRan), ("forever_passes", .ofNat s.foreverPasses),
    ("cancelled", .bool s.cancelled)]

/-- The length of a tick in nanoseconds; a rate of zero counts as one. -/
def tickLength (hz : Nat) : Nat :=
  1000000000 / max hz 1

/-- The rate of ticks unless something else is said. -/
def defaultTickHz : Nat := 60

/-- The length in nanoseconds of a sleep that was given in milliseconds. What is negative or no number does
not sleep, and no sleep is longer than 64 bits can count. -/
def sleepLength (value : Scalar) : Nat :=
  let milliseconds := value.toFloat
  if 0 < milliseconds then (milliseconds * 1000000).round.toUInt64.toNat else 0

end Signalbox
