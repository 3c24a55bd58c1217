import Signalbox.CommandLine.Reading

/-!
# The grammar of command lines

The options and commands of the program, and the invocation that a command line stands for. The options of
the whole program may stand on every level, and the innermost one counts.
-/

namespace Signalbox.CommandLine

/-- The options that may stand on every level. -/
def everywhere : List Switch :=
  [⟨"config", none, .value .path, false⟩, ⟨"json", some 'j', .flag, false⟩,
    ⟨"quiet", some 'q', .flag, false⟩, ⟨"verbose", some 'v', .flag, false⟩,
    ⟨"help", some 'h', .help, false⟩]

/-- A command without commands of its own. -/
def leaf (switches : List Switch) (slots : List Slot) : Level :=
  .mk (switches ++ everywhere) slots []

/-- The place of a program file. -/
def programSlot : Slot := ⟨"program", .path, true⟩

/-- The option for a device status file. -/
def devicesSwitch : Switch := ⟨"devices", some 'd', .value .path, false⟩

/-- The commands about the configuration. -/
def configLevel : Level :=
  .mk everywhere []
    [("show", leaf [] []), ("path", leaf [] []),
      ("set", leaf [] [⟨"key", .text, true⟩, ⟨"value", .text, true⟩]),
      ("default", leaf [] []), ("verify", leaf [] [])]

/-- The whole command line. -/
def topLevel : Level :=
  .mk (everywhere ++ [⟨"version", some 'V', .version, false⟩]) []
    [("new", leaf [⟨"force", none, .flag, false⟩] [⟨"path", .path, false⟩]),
      ("check", leaf [] [programSlot]),
      ("tree", leaf [] [programSlot]),
      ("add", leaf
        [⟨"kind", some 'k', .value .blockType, true⟩, ⟨"value", none, .value .text, false⟩,
          ⟨"count", none, .value .count32, false⟩, ⟨"condition", none, .value .text, false⟩,
          ⟨"device", none, .value .text, false⟩, ⟨"prop", none, .value .text, false⟩]
        [programSlot]),
      ("move", leaf
        [⟨"onto", none, .value .text, true⟩, ⟨"snap", none, .value .snapType, false⟩]
        [programSlot, ⟨"block", .text, true⟩]),
      ("eval", leaf [devicesSwitch] [⟨"condition", .text, true⟩]),
      ("run", leaf
        [devicesSwitch, ⟨"simulate", none, .flag, false⟩, ⟨"passes", none, .value .count64, false⟩]
        [programSlot]),
      ("config", configLevel)]

namespace Said

/-- What was said on the level itself. -/
def given : Said → List (String × String)
  | .mk given _ => given

/-- A value on the level itself. -/
def value? (said : Said) (name : String) : Option String :=
  said.given.lookup name

/-- A value that must have been said. -/
def value (said : Said) (name : String) : String :=
  (said.value? name).getD ""

/-- Holds of a flag that was said on the level itself. -/
def has (said : Said) (name : String) : Bool :=
  (said.value? name).isSome

/-- A value that may be said on every level; the innermost one counts. -/
def anywhere? (name : String) : Said → Option String
  | .mk given none => given.lookup name
  | .mk given (some (_, inner)) => (inner.anywhere? name).or (given.lookup name)

/-- The command about the configuration that was said. -/
def configCommand? : Said → Option ConfigCommand
  | .mk _ (some ("show", _)) => some .show
  | .mk _ (some ("path", _)) => some .path
  | .mk _ (some ("set", said)) => some (.set (said.value "key") (said.value "value"))
  | .mk _ (some ("default", _)) => some .default
  | .mk _ (some ("verify", _)) => some .verify
  | _ => none

/-- The path of a new program unless another one is said. -/
def usualProgram : String := "program.json"

/-- The command that was said. -/
def command? : Said → Option Command
  | .mk _ (some ("new", said)) =>
    some (.new ((said.value? "path").getD usualProgram) (said.has "force"))
  | .mk _ (some ("check", said)) => some (.check (said.value "program"))
  | .mk _ (some ("tree", said)) => some (.tree (said.value "program"))
  | .mk _ (some ("add", said)) => do
    let type ← BlockType.ofName? (said.value "kind")
    return .add (said.value "program") type
      { value := said.value? "value"
        count := (said.value? "count").bind count32?
        condition := said.value? "condition"
        device := said.value? "device"
        prop := said.value? "prop" }
  | .mk _ (some ("move", said)) => do
    let snap ← SnapType.ofName? ((said.value? "snap").getD SnapType.append.name)
    return .move (said.value "program") (said.value "block") (said.value "onto") snap
  | .mk _ (some ("eval", said)) => some (.eval (said.value "condition") (said.value? "devices"))
  | .mk _ (some ("run", said)) =>
    some (.run (said.value "program") (said.value? "devices") (said.has "simulate")
      ((said.value? "passes").bind count64?))
  | .mk _ (some ("config", said)) => said.configCommand?.map .config
  | _ => none

end Said

/-- Reads the words of a command line after the program's name. -/
def Invocation.read (words : List String) : Except Usage Invocation := do
  let said ← topLevel.scan topLevel.start words
  match said.command? with
  | none => .error .missingSubcommand
  | some command =>
    return {
      config := said.anywhere? "config"
      json := (said.anywhere? "json").isSome
      quiet := (said.anywhere? "quiet").isSome
      verbose := (said.anywhere? "verbose").isSome
      command }

end Signalbox.CommandLine
