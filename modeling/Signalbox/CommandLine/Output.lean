import Signalbox.CommandLine.Failure
import Signalbox.Json.Printer

/-!
# Output

Results are written as text, as a response in one line, or not at all; failures are written in any case.
-/

namespace Signalbox.CommandLine

/-- How results are written. -/
inductive OutputMode where
  | text
  | json
  | quiet
  deriving DecidableEq, Repr

/-- The mode that flags ask for: quiet goes first. -/
def OutputMode.ofFlags (json quiet : Bool) : OutputMode :=
  if quiet then .quiet else if json then .json else .text

/-- The response that carries a result. -/
def response (result : Json) : Json :=
  .map [("jsonrpc", .str "2.0"), ("result", result), ("id", .null)]

/-- The number of an exit code in a response. -/
def responseCode (code : Int) : Int :=
  -32000 - code

/-- The response that carries a failure. -/
def failureResponse (f : Failure) : Json :=
  let problems := if f.problems.isEmpty then []
    else [("data", Json.map [("problems", .list (f.problems.map .str))])]
  .map [("jsonrpc", .str "2.0"),
    ("error", .map ([("code", .num (.int (responseCode f.code))), ("message", .str f.message)] ++ problems)),
    ("id", .null)]

/-- The streams that a command writes to. They take all that is written to them: a stream that fails, such as a closed
output, is left out, and so is what a command would do about it. -/
structure Console (m : Type → Type) where
  /-- Writes a text to the output. -/
  out : String → m Unit
  /-- Writes a text to the error output. -/
  err : String → m Unit

namespace Console

variable {m : Type → Type} [Monad m]

/-- Writes a line to the output. -/
def line (console : Console m) (s : String) : m Unit :=
  console.out (s ++ "\n")

/-- Writes a line to the error output. -/
def errorLine (console : Console m) (s : String) : m Unit :=
  console.err (s ++ "\n")

/-- Writes a result: as a response, as text, or not at all. -/
def result (console : Console m) (mode : OutputMode) (json : Json) (text : String) : m Unit :=
  match mode with
  | .json => console.line (response json).compact
  | .text => console.out text
  | .quiet => return ()

/-- Writes a line of text, if results are written as text. -/
def textLine (console : Console m) (mode : OutputMode) (s : String) : m Unit :=
  match mode with
  | .text => console.line s
  | _ => return ()

/-- Writes lines to the error output. -/
def errorLines (console : Console m) : List String → m Unit
  | [] => return ()
  | s :: rest => do
    console.errorLine s
    console.errorLines rest

/-- Writes a failure and the problems that it lists. -/
def failure (console : Console m) (mode : OutputMode) (f : Failure) : m Unit :=
  match mode with
  | .json => console.line (failureResponse f).compact
  | _ =>
    console.errorLines (s!"Error: {f.message}" :: f.problems.map fun problem => s!"  - {problem}")

end Console

end Signalbox.CommandLine
