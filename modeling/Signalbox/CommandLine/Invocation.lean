import Signalbox.Block.Basic
import Signalbox.Snap.Basic

/-!
# Invocations

An invocation is a command line that makes sense: a command and what holds for every command.
-/

namespace Signalbox.CommandLine

/-- The fields of a new block; only those of its type count. -/
structure NewFields where
  value : Option String := none
  count : Option UInt32 := none
  condition : Option String := none
  device : Option String := none
  prop : Option String := none
  deriving DecidableEq, Repr, Inhabited

/-- The commands about the configuration. -/
inductive ConfigCommand where
  | show
  | path
  | set (key value : String)
  | default
  | verify
  deriving DecidableEq, Repr

/-- The commands. -/
inductive Command where
  /-- Writes a new program. -/
  | new (path : String) (force : Bool)
  /-- Looks for broken rules and conditions that cannot be read. -/
  | check (path : String)
  /-- Shows the outline of a program. -/
  | tree (path : String)
  /-- Adds a block. -/
  | add (path : String) (type : BlockType) (fields : NewFields)
  /-- Moves a block and those that follow it onto another block. -/
  | move (path block onto : String) (snap : SnapType)
  /-- Evaluates a condition. -/
  | eval (condition : String) (devices : Option String)
  /-- Runs a program. -/
  | run (path : String) (devices : Option String) (simulate : Bool) (passes : Option UInt64)
  | config (command : ConfigCommand)
  deriving DecidableEq, Repr

/-- A command and what holds for every command. -/
structure Invocation where
  config : Option String
  json : Bool
  quiet : Bool
  verbose : Bool
  command : Command
  deriving DecidableEq, Repr

/-- The ways in which a command line does not lead to a command. -/
inductive Usage where
  | unknownArgument
  | invalidSubcommand
  | missingSubcommand
  | missingRequired
  | invalidValue
  | valueValidation
  | argumentConflict
  | tooManyValues
  | help
  | version
  | helpInsteadOfCommand
  deriving DecidableEq, Repr

/-- The exit code: help and version that were asked for are no failure. -/
def Usage.code : Usage → Nat
  | .help | .version => 0
  | _ => 2

end Signalbox.CommandLine
