import Signalbox.Json.Basic
import Signalbox.Text.Quoted

/-!
# What can be wrong with a document

A `Fault` is a text that is no document. An `Error` is either that or a document of the wrong shape:
it names what was found and what was expected. `Error.message` words both; the kinds of document
differ in the name of null and in how a float is shown, which a `Wording` says.
-/

namespace Signalbox.Json

/-- A reason why a text is no document. -/
inductive Fault where
  | endInList
  | endInMap
  | endInString
  | endInValue
  | expectedColon
  | expectedListEnd
  | expectedMapEnd
  | expectedWord
  | expectedValue
  | badEscape
  | badNumber
  | outOfRange
  | controlCharacter
  | keyNotString
  | loneSurrogate
  | surrogateCutOff
  | trailingComma
  | trailingCharacters
  | tooDeep
  deriving DecidableEq, Repr

/-- The wording of a fault. -/
def Fault.message : Fault → String
  | .endInList => "EOF while parsing a list"
  | .endInMap => "EOF while parsing an object"
  | .endInString => "EOF while parsing a string"
  | .endInValue => "EOF while parsing a value"
  | .expectedColon => "expected `:`"
  | .expectedListEnd => "expected `,` or `]`"
  | .expectedMapEnd => "expected `,` or `\x7d`"
  | .expectedWord => "expected ident"
  | .expectedValue => "expected value"
  | .badEscape => "invalid escape"
  | .badNumber => "invalid number"
  | .outOfRange => "number out of range"
  | .controlCharacter => "control character (\\u0000-\\u001F) found while parsing a string"
  | .keyNotString => "key must be a string"
  | .loneSurrogate => "lone leading surrogate in hex escape"
  | .surrogateCutOff => "unexpected end of hex escape"
  | .trailingComma => "trailing comma"
  | .trailingCharacters => "trailing characters"
  | .tooDeep => "recursion limit exceeded"

/-- What stood where something else was expected. -/
inductive Found where
  | null
  | bool (b : Bool)
  | int (n : Int)
  | float (x : Float)
  | str (s : String)
  | list
  | map
  deriving Repr

/-- How a kind of document words what it found. -/
structure Wording where
  null : String
  floats : Layout

/-- Programs and device statuses. -/
def Wording.document : Wording := ⟨"null", .document⟩

/-- The configuration. -/
def Wording.settings : Wording := ⟨"unit value", .pointed⟩

/-- The wording of what was found. -/
def Found.describe (w : Wording) : Found → String
  | .null => w.null
  | .bool b => s!"boolean `{b}`"
  | .int n => s!"integer `{n}`"
  | .float x => s!"floating point `{w.floats.write x}`"
  | .str s => s!"string {Text.Quoted.encode s}"
  | .list => "sequence"
  | .map => "map"

/-- A reason why a value of a lenient document cannot be told. -/
inductive SpellingFault where
  /-- A hexadecimal numeral beyond 32 bits. -/
  | hexTooLong
  /-- A whole numeral beyond 64 bits, or in an odd spelling. -/
  | badInteger
  /-- No numeral, or one in an odd spelling. -/
  | badNumber
  /-- A numeral beyond the largest float. -/
  | tooLarge
  /-- An escape for half of a surrogate pair. -/
  | surrogate
  deriving DecidableEq, Repr

/-- The wording of a fault. -/
def SpellingFault.message : SpellingFault → String
  | .hexTooLong => "error parsing hex"
  | .badInteger => "error parsing integer"
  | .badNumber => "error parsing number"
  | .tooLarge => "error parsing number: too large"
  | .surrogate => "error parsing hex prefix"

/-- A reason why a text is not the kind of document that it should be. -/
inductive Error where
  | malformed (fault : Fault)
  | wrongType (found : Found) (expected : String)
  | wrongValue (found : Found) (expected : String)
  | wrongLength (length : Nat) (expected : String)
  | missingField (name : String)
  | duplicateField (name : String)
  | unknownVariant (name : String) (known : List String)
  | notScalar
  | spelling (fault : SpellingFault)
  deriving Repr

/-- Names between backticks, as a choice of two or as a list. -/
def describeChoice (names : List String) : String :=
  let quoted := names.map fun name => s!"`{name}`"
  match quoted with
  | [a, b] => s!"{a} or {b}"
  | _ => "one of " ++ String.intercalate ", " quoted

/-- The wording of an error. -/
def Error.message (w : Wording) : Error → String
  | .malformed fault => fault.message
  | .wrongType found expected => s!"invalid type: {found.describe w}, expected {expected}"
  | .wrongValue found expected => s!"invalid value: {found.describe w}, expected {expected}"
  | .wrongLength length expected => s!"invalid length {length}, expected {expected}"
  | .missingField name => s!"missing field `{name}`"
  | .duplicateField name => s!"duplicate field `{name}`"
  | .unknownVariant name known => s!"unknown variant `{name}`, expected {describeChoice known}"
  | .notScalar => "data did not match any variant of untagged enum Scalar"
  | .spelling fault => fault.message

/-- What a value is, for a message. -/
def found : Json → Found
  | .null => .null
  | .bool b => .bool b
  | .num (.int n) => .int n
  | .num (.float x) => .float x
  | .str s => .str s
  | .list _ => .list
  | .map _ => .map

/-- The error of a value of the wrong type. -/
def mismatch (value : Json) (expected : String) : Error :=
  .wrongType value.found expected

end Signalbox.Json
