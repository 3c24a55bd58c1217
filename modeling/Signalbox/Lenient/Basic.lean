import Signalbox.Decimal.Reading
import Signalbox.Json.Error

/-!
# Lenient documents

A lenient document is one that people write: names without quotes, comments, commas at the end of a list,
numbers in hexadecimal or with a sign. It keeps its numerals as they are spelled, because what a numeral
means depends on what is wanted: a number (`Numeral.toFloat`), or whatever it says by itself
(`Numeral.toNumber`).
-/

namespace Signalbox

open Json (SpellingFault)

/-- The sign in front of a numeral. -/
inductive Sign where
  | none
  | plus
  | minus
  deriving DecidableEq, Repr

/-- A numeral without its sign. -/
inductive Magnitude where
  | hex (digits : List Char)
  /-- Digits around a point that may be missing, and an exponent that may be missing. -/
  | decimal (whole : List Char) (fraction : Option (List Char)) (exponent : Option Int)
  | infinity
  | nan
  deriving DecidableEq, Repr

/-- A numeral as it is spelled. -/
structure Numeral where
  sign : Sign
  magnitude : Magnitude
  deriving DecidableEq, Repr

namespace Numeral

/-- The whole number of a row of hexadecimal digits, which has at most 32 bits. -/
def ofHex (digits : List Char) : Except SpellingFault Nat :=
  let n := Text.ofHexDigits digits
  if n < UInt32.size then .ok n else .error .hexTooLong

/-- A float with a sign. -/
def signed (sign : Sign) (x : Float) : Float :=
  match sign with
  | .minus => -x
  | _ => x

/-- The float that a numeral denotes. No sign goes with a hexadecimal numeral, and no plus sign with what is
not finite. -/
def toFloat (n : Numeral) : Except SpellingFault Float :=
  match n.magnitude with
  | .hex digits =>
    if n.sign = .none then (ofHex digits).map Nat.toFloat else .error .badNumber
  | .decimal whole fraction exponent =>
    let fraction := fraction.getD []
    let x := Decimal.toFloat
      ⟨Text.ofDigits (whole ++ fraction), exponent.getD 0 - fraction.length⟩
    if x.isFinite then .ok (signed n.sign x) else .error .tooLarge
  | .infinity => if n.sign = .plus then .error .tooLarge else .ok (signed n.sign (1 / 0))
  | .nan => if n.sign = .plus then .error .tooLarge else .ok (0 / 0)

/-- The whole number with a sign and digits, which has at most 64 bits. -/
def toInt (sign : Sign) (digits : List Char) : Except SpellingFault Int :=
  let n : Int := Text.ofDigits digits
  let n := if sign = .minus then -n else n
  if -0x8000000000000000 ≤ n ∧ n < 0x8000000000000000 then .ok n else .error .badInteger

/-- The number that a numeral says by itself: a whole one if it has neither a point nor an exponent. The
digit `e` in a signed hexadecimal numeral is taken for the mark of an exponent, and a plus sign in front of
what is not finite for that of a whole number; neither has a value. -/
def toNumber (n : Numeral) : Except SpellingFault Number :=
  match n.sign, n.magnitude with
  | .none, .hex digits => (ofHex digits).map fun n => .int n
  | _, .hex digits =>
    if digits.any fun c => c = 'e' || c = 'E' then .error .badNumber else .error .badInteger
  | sign, .decimal whole none none => (toInt sign whole).map .int
  | _, .decimal .. => n.toFloat.map .float
  | .plus, .infinity => .error .badInteger
  | .plus, .nan => .error .badInteger
  | _, .infinity => n.toFloat.map .float
  | _, .nan => n.toFloat.map .float

end Numeral

/-- A lenient document. A text is missing when one of its escapes is half of a surrogate pair. -/
inductive Lenient where
  | null
  | bool (b : Bool)
  | numeral (n : Numeral)
  | text (s : Option String)
  | list (items : List Lenient)
  | map (entries : List (Option String × Lenient))

namespace Lenient

open Json (Error)

/-- The text that is there, or the fault where it is missing. -/
def textOr (s : Option String) : Except Error String :=
  match s with
  | some s => .ok s
  | none => .error (.spelling .surrogate)

/-- The error of a document of the wrong type: its own fault, if it has no value. -/
def mismatch (d : Lenient) (expected : String) : Error :=
  match d with
  | .null => .wrongType .null expected
  | .bool b => .wrongType (.bool b) expected
  | .numeral n =>
    match n.toNumber with
    | .ok (.int n) => .wrongType (.int n) expected
    | .ok (.float x) => .wrongType (.float x) expected
    | .error fault => .spelling fault
  | .text (some s) => .wrongType (.str s) expected
  | .text none => .spelling .surrogate
  | .list _ => .wrongType .list expected
  | .map _ => .wrongType .map expected

/-- The float of a numeral, whatever the spelling. -/
def float : Lenient → Except Error Float
  | .numeral n => n.toFloat.mapError .spelling
  | _ => .error (.spelling .badNumber)

/-- A text, or the error that names what was expected. -/
def textAs (expected : String) : Lenient → Except Error String
  | .text s => textOr s
  | d => .error (d.mismatch expected)

mutual

/-- Passes over a document: the first value in it that cannot be told. -/
def skip : Lenient → Except Error Unit
  | .null | .bool _ => .ok ()
  | .numeral n =>
    match n.toNumber with
    | .ok _ => .ok ()
    | .error fault => .error (.spelling fault)
  | .text s => do
    let _ ← textOr s
  | .list items => skipItems items
  | .map entries => skipEntries entries

def skipItems : List Lenient → Except Error Unit
  | [] => .ok ()
  | item :: rest => do
    item.skip
    skipItems rest

def skipEntries : List (Option String × Lenient) → Except Error Unit
  | [] => .ok ()
  | (key, value) :: rest => do
    let _ ← textOr key
    value.skip
    skipEntries rest

end

end Lenient

end Signalbox
