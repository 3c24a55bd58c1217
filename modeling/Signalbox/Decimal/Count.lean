import Signalbox.Decimal.Reading

/-!
# Numbers that are a whole text

A count is a row of digits with an optional plus sign and stays below a limit; a float is what `readFloat?`
reads. `NumberFault` says what is wrong with a text that is none of them.
-/

namespace Signalbox

/-- A reason why a text is no number. -/
inductive NumberFault where
  | emptyCount
  | badDigit
  | tooLarge
  | emptyFloat
  | badFloat
  deriving DecidableEq, Repr

/-- The wording of a fault. -/
def NumberFault.message : NumberFault → String
  | .emptyCount => "cannot parse integer from empty string"
  | .badDigit => "invalid digit found in string"
  | .tooLarge => "number too large to fit in target type"
  | .emptyFloat => "cannot parse float from empty string"
  | .badFloat => "invalid float literal"

/-- The count of digits after the number that was read so far. The first character that is no digit or leads
beyond the limit decides the fault. -/
def countOfDigits (limit : Nat) : (count : Nat) → List Char → Except NumberFault Nat
  | count, [] => .ok count
  | count, c :: rest =>
    if ¬ Text.isAsciiDigit c then .error .badDigit
    else
      let next := 10 * count + (c.toNat - 48)
      if next < limit then countOfDigits limit next rest else .error .tooLarge

/-- The count below a limit that a text denotes. -/
def readCount (limit : Nat) (text : String) : Except NumberFault Nat :=
  match text.toList with
  | [] => .error .emptyCount
  | ['+'] => .error .badDigit
  | '+' :: digits => countOfDigits limit 0 digits
  | digits => countOfDigits limit 0 digits

/-- The float that a text denotes. -/
def readFloat (text : String) : Except NumberFault Float :=
  if text.isEmpty then .error .emptyFloat
  else
    match readFloat? text.toList with
    | some x => .ok x
    | none => .error .badFloat

end Signalbox
