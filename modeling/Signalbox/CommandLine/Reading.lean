import Signalbox.CommandLine.Level

/-!
# Reading a level

`Level.scan` reads the words of a level one after the other. A value that was read is looked at when the next
option, flag or value comes or when the level is over (`Reading.settle`), so of two faults that one is
reported which settles first. A command ends its level, and the level is closed only after everything that
follows the command.
-/

namespace Signalbox.CommandLine

/-- A value that has not been looked at yet. `value` is missing as long as an option waits for it. -/
structure Pending where
  name : String
  shape : Shape
  value : Option String
  deriving Repr

/-- How far a level has been read. -/
structure Reading where
  /-- The values, and a text for every flag. -/
  given : List (String × String)
  pending : Option Pending
  /-- The places that have no value yet. -/
  free : List Slot
  /-- After the word `--` only values follow. -/
  onlyValues : Bool
  deriving Repr

/-- What was said on a level and on those below it. -/
inductive Said where
  | mk (given : List (String × String)) (command : Option (String × Said))
  deriving Repr

namespace Reading

/-- Notes that something was said, which may be said once. -/
def note (r : Reading) (name value : String) : Except Usage Reading :=
  if (r.given.lookup name).isSome then .error .argumentConflict
  else .ok { r with given := (name, value) :: r.given }

/-- Looks at the value that has not been looked at yet. -/
def settle (r : Reading) : Except Usage Reading :=
  match r.pending with
  | none => .ok r
  | some ⟨_, _, none⟩ => .error .invalidValue
  | some ⟨name, shape, some value⟩ => do
    let r ← { r with pending := none }.note name value
    match shape.fault? value with
    | some fault => .error fault
    | none => return r

/-- Holds while an option waits for its value. -/
def isWaiting (r : Reading) : Bool :=
  match r.pending with
  | some ⟨_, _, none⟩ => true
  | _ => false

/-- Reads a switch with what is attached to it, if anything. -/
def switch (r : Reading) (s : Switch) (attached : Option String) : Except Usage Reading := do
  let r ← r.settle
  match s.meaning with
  | .flag => r.note s.long ""
  | .help => .error .help
  | .version => .error .version
  | .value shape =>
    let r := { r with pending := some ⟨s.long, shape, attached⟩ }
    if attached.isSome then r.settle else return r

/-- Reads a word after two dashes: a long name, and maybe a value behind the sign `=`. -/
def longSwitch (level : Level) (r : Reading) (word : List Char) : Except Usage Reading :=
  let name := word.takeWhile (· ≠ '=')
  let attached := match word.dropWhile (· ≠ '=') with
    | [] => none
    | _ :: value => some (String.ofList value)
  match level.long? (String.ofList name) with
  | none => .error .unknownArgument
  | some s =>
    match s.meaning with
    | .value _ => r.switch s attached
    | _ => if attached.isSome then .error .tooManyValues else r.switch s none

/-- Reads a word after one dash: short names, the last of which may have its value behind it. -/
def shortSwitches (level : Level) (r : Reading) : List Char → Except Usage Reading
  | [] => .ok r
  | c :: rest =>
    match level.short? c with
    | none => .error .unknownArgument
    | some s =>
      match s.meaning with
      | .value _ =>
        let attached := match rest with
          | [] => none
          | '=' :: value => some value
          | value => some value
        r.switch s (attached.map String.ofList)
      | _ => do shortSwitches level (← r.switch s none) rest

/-- Reads a word that is a value by its place. -/
def place (level : Level) (r : Reading) (word : String) : Except Usage Reading :=
  match r.free with
  | slot :: free => do
    let r ← r.settle
    return { r with free, pending := some ⟨slot.name, slot.shape, some word⟩ }
  | [] =>
    if r.onlyValues ∧ level.isCommand word then .error .unknownArgument
    else if level.commands.isEmpty then .error .unknownArgument
    else .error .invalidSubcommand

/-- Reads a word that is no command. -/
def word (level : Level) (r : Reading) (w : String) : Except Usage Reading :=
  if r.onlyValues then r.place level w
  else
    match w.toList with
    | ['-', '-'] => .ok { r with onlyValues := true }
    | '-' :: '-' :: name => longSwitch level r name
    | '-' :: c :: names => shortSwitches level r (c :: names)
    | _ =>
      match r.pending with
      | some ⟨name, shape, none⟩ => .ok { r with pending := some ⟨name, shape, some w⟩ }
      | _ => r.place level w

/-- Closes a level: its last value is looked at, and everything required must be there. -/
def close (level : Level) (r : Reading) (command : Option (String × Said)) : Except Usage Said := do
  let r ← r.settle
  if command.isNone ∧ ¬ level.commands.isEmpty then
    .error (if r.given.isEmpty then .helpInsteadOfCommand else .missingSubcommand)
  else
    let required := (level.switches.filter (·.required)).map (·.long) ++
      (level.slots.filter (·.required)).map (·.name)
    if required.all fun name => (r.given.lookup name).isSome then return .mk r.given command
    else .error .missingRequired

end Reading

namespace Level

/-- A level of which nothing has been read. -/
def start (level : Level) : Reading :=
  ⟨[], none, level.slots, false⟩

/-- Reads the words of a level and of those below it. -/
def scan (level : Level) (r : Reading) : List String → Except Usage Said
  | [] => r.close level none
  | w :: rest =>
    if ¬ r.onlyValues ∧ ¬ r.isWaiting ∧ level.isCommand w then
      match level.commands.lookup w with
      | none => .error (level.helpAbout rest)
      | some inner =>
        match inner.scan inner.start rest with
        | .error usage => .error usage
        | .ok said => r.close level (some (w, said))
    else
      match r.word level w with
      | .error usage => .error usage
      | .ok r => level.scan r rest

end Level

end Signalbox.CommandLine
