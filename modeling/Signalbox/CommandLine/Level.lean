import Signalbox.CommandLine.Invocation
import Signalbox.Decimal.Count

/-!
# Levels of a command line

A `Level` says what may stand on one level of a command line: options, values at certain places, and commands,
each of which is a level of its own for what follows it. Values have a `Shape`.
-/

namespace Signalbox.CommandLine

/-- What the value of an option must be. -/
inductive Shape where
  | path
  | text
  /-- A count of at most 32 bits. -/
  | count32
  /-- A count of at most 64 bits. -/
  | count64
  | blockType
  | snapType
  deriving DecidableEq, Repr

/-- What a word on a level stands for. -/
inductive Meaning where
  | flag
  | value (shape : Shape)
  /-- Asks for help. -/
  | help
  /-- Asks for the version. -/
  | version
  deriving DecidableEq, Repr

/-- An option or a flag. -/
structure Switch where
  long : String
  short : Option Char
  meaning : Meaning
  required : Bool := false
  deriving DecidableEq, Repr

/-- A value that is known by its place. -/
structure Slot where
  name : String
  shape : Shape
  required : Bool := true
  deriving DecidableEq, Repr

/-- One level of a command line. -/
inductive Level where
  | mk (switches : List Switch) (slots : List Slot) (commands : List (String × Level))

namespace Level

/-- The options and flags of a level. -/
def switches : Level → List Switch
  | .mk switches _ _ => switches

/-- The values that are known by their place. -/
def slots : Level → List Slot
  | .mk _ slots _ => slots

/-- The commands of a level. -/
def commands : Level → List (String × Level)
  | .mk _ _ commands => commands

/-- The switch with a long name. -/
def long? (level : Level) (name : String) : Option Switch :=
  level.switches.find? (·.long = name)

/-- The switch with a short name. -/
def short? (level : Level) (c : Char) : Option Switch :=
  level.switches.find? (·.short = some c)

/-- The word for help among the commands. -/
def helpCommand : String := "help"

/-- Holds of the words that are commands of a level. -/
def isCommand (level : Level) (word : String) : Bool :=
  ¬ level.commands.isEmpty ∧ (word = helpCommand ∨ (level.commands.lookup word).isSome)

/-- What comes of asking for help about the command that words lead to. -/
def helpAbout (level : Level) : List String → Usage
  | [] => .help
  | word :: rest =>
    match level.commands.lookup word with
    | some inner => helpAbout inner rest
    | none =>
      if level.isCommand word ∧ rest.isEmpty then .help else .invalidSubcommand

end Level

/-- The count of 32 bits that a text denotes. A minus sign goes only with zero. -/
def count32? (text : String) : Option UInt32 :=
  let count := match text.toList with
    | '-' :: c :: rest => countOfDigits 1 0 (c :: rest)
    | _ => readCount UInt32.size text
  count.toOption.map (·.toUInt32)

/-- The count of 64 bits that a text denotes. -/
def count64? (text : String) : Option UInt64 :=
  (readCount UInt64.size text).toOption.map (·.toUInt64)

/-- What is wrong with a value, if it does not have the shape that it should. -/
def Shape.fault? (shape : Shape) (text : String) : Option Usage :=
  let must (ok : Bool) : Option Usage := if ok then none else some .valueValidation
  match shape with
  | .text => none
  | .path => if text.isEmpty then some .invalidValue else none
  | .count32 => must (count32? text).isSome
  | .count64 => must (count64? text).isSome
  | .blockType => must (BlockType.ofName? text).isSome
  | .snapType => must (SnapType.ofName? text).isSome

end Signalbox.CommandLine
