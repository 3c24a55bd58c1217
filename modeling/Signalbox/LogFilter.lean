import Signalbox.Text.Alphanumeric
import Signalbox.Text.Blank
import Signalbox.Text.DecimalDigit

/-!
# Log filters

A log filter says from which level on messages are logged: one level for every part of the program, or one
for each of some named parts. It is written as a list of directives between commas: a level, a name, or a
name and a level with the sign `=` between them.

A filter keeps at most one directive for each name and one for the rest, the most specific first, and that
is the order in which it is written.
-/

namespace Signalbox

/-- The levels of messages, from none at all to every one. -/
inductive LogLevel where
  | off
  | error
  | warn
  | info
  | debug
  | trace
  deriving DecidableEq, Repr, Inhabited

namespace LogLevel

/-- The levels in the order of their numbers. -/
def all : List LogLevel :=
  [.off, .error, .warn, .info, .debug, .trace]

/-- The name of a level. -/
def name : LogLevel → String
  | .off => "off"
  | .error => "error"
  | .warn => "warn"
  | .info => "info"
  | .debug => "debug"
  | .trace => "trace"

/-- The level with a number. -/
def ofNumber? (cs : List Char) : Option LogLevel :=
  let digits := match cs with
    | '+' :: rest => rest
    | cs => cs
  if digits.isEmpty ∨ ¬ digits.all Text.isAsciiDigit then none
  else all[Text.ofDigits digits]?

/-- The level that a text speaks of: its number or its name in any case. -/
def read? (cs : List Char) : Option LogLevel :=
  (ofNumber? cs).or (all.find? fun level => level.name.toList = cs.map Char.toLower)

end LogLevel

/-- The level for the messages of one part of the program, or for those that no other directive speaks of. -/
structure LogDirective where
  target : Option String
  level : LogLevel
  deriving DecidableEq, Repr, Inhabited

/-- A reason why a text is no filter. -/
inductive LogFilterError where
  | badDirective
  | badLevel
  deriving DecidableEq, Repr

/-- The wording of an error. -/
def LogFilterError.message : LogFilterError → String
  | .badDirective => "invalid filter directive"
  | .badLevel =>
    "error parsing level filter: expected one of \"off\", \"error\", \"warn\", \"info\", \"debug\", " ++
      "\"trace\", or a number 0-5"

namespace LogDirective

/-- The characters that a directive starts with. -/
def isStart (c : Char) : Bool :=
  c = '-' || c = ':' || c = '_' || Text.isAlphanumeric c

/-- Reads a directive. A missing level is the last one. The blanks in front of a directive are passed over
in looking for its sign, but its parts are counted from its very start. -/
def read (piece : List Char) : Except LogFilterError LogDirective :=
  let body := Text.trim piece
  match body with
  | [] => .ok ⟨none, .trace⟩
  | first :: _ =>
    if ¬ isStart first then .error .badDirective
    else
      let place := (body.takeWhile (· ≠ '=')).length
      if place = body.length then
        match LogLevel.read? piece with
        | some level => .ok ⟨none, level⟩
        | none => .ok ⟨some (String.ofList piece), .trace⟩
      else
        let target := some (String.ofList (piece.take place))
        match piece.drop (place + 1) with
        | [] => .ok ⟨target, .trace⟩
        | level =>
          match LogLevel.read? level with
          | some level => .ok ⟨target, level⟩
          | none => .error .badLevel

/-- Holds when the first directive stands in front of the second: those for longer names come first, then
those for later names, and the one for the rest comes last. -/
def precedes (a b : LogDirective) : Bool :=
  match a.target, b.target with
  | some a, some b =>
    b.utf8ByteSize < a.utf8ByteSize || (a.utf8ByteSize == b.utf8ByteSize && b < a)
  | some _, none => true
  | none, _ => false

/-- A directive as filters write it. -/
def text (d : LogDirective) : String :=
  match d.target with
  | some target => s!"{target}={d.level.name}"
  | none => d.level.name

end LogDirective

/-- The directives of a filter, in their order. -/
structure LogFilter where
  directives : List LogDirective
  deriving DecidableEq, Repr, Inhabited

namespace LogFilter

/-- Puts a directive in its place; one for the same name gives way. -/
def insert (d : LogDirective) : List LogDirective → List LogDirective
  | [] => [d]
  | e :: rest =>
    if d.target = e.target then d :: rest
    else if d.precedes e then d :: e :: rest
    else e :: insert d rest

/-- The filter of a list of directives, of which later ones replace earlier ones. -/
def ofDirectives (ds : List LogDirective) : LogFilter :=
  ⟨ds.foldl (fun sorted d => insert d sorted) []⟩

/-- The pieces between the commas of a text, with a piece begun. -/
def piecesFrom (begun : List Char) : List Char → List (List Char)
  | [] => [begun.reverse]
  | ',' :: rest => begun.reverse :: piecesFrom [] rest
  | c :: rest => piecesFrom (c :: begun) rest

/-- Reads a filter. Empty pieces do not count, and the first bad one decides the error. -/
def read (text : String) : Except LogFilterError LogFilter := do
  let pieces := (piecesFrom [] text.toList).filter (¬ ·.isEmpty)
  return ofDirectives (← pieces.mapM LogDirective.read)

/-- A filter as it is written. -/
def text (f : LogFilter) : String :=
  String.intercalate "," (f.directives.map (·.text))

/-- The filter with one level for everything. -/
def ofLevel (level : LogLevel) : LogFilter := ⟨[⟨none, level⟩]⟩

/-- The filter in force: the one of the environment, else the level for a verbose run, else the configured
one. Texts that are no filter do not count. -/
def choose (environment : Option String) (verbose : Bool) (configured : Option String) : LogFilter :=
  let reading (text : Option String) : Option LogFilter :=
    text.bind fun text => (read text).toOption
  match reading environment with
  | some filter => filter
  | none =>
    if verbose then ofLevel .debug
    else (reading configured).getD (ofLevel .warn)

end LogFilter

end Signalbox
