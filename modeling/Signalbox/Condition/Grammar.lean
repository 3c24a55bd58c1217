import Signalbox.Condition.Basic
import Signalbox.Decimal.Reading
import Signalbox.Text.Blank

/-!
# Reading conditions

A condition is looked for in a text: the first place where a device, a colon, a property, a comparison
and a number follow each other. What stands before and after does not matter. Every part is as long as it
can be, and no part can be read in two ways: a device ends at its colon, a property where its letters
end, and a comparison of one sign is followed by a number and not by a second sign.
-/

namespace Signalbox.Condition

/-- The characters of a device's name. -/
def isDeviceChar (c : Char) : Bool :=
  ('A' ≤ c && c ≤ 'Z') || Text.isAsciiDigit c

/-- The characters of a property's name. -/
def isPropertyChar (c : Char) : Bool :=
  ('a' ≤ c && c ≤ 'z') || c == '_'

/-- The sign of a comparison at the start of a text, of two characters if they are there, and the rest. -/
def readSign? : List Char → Option (String × List Char)
  | '=' :: '=' :: rest => some ("==", rest)
  | '!' :: '=' :: rest => some ("!=", rest)
  | '>' :: '=' :: rest => some (">=", rest)
  | '<' :: '=' :: rest => some ("<=", rest)
  | '=' :: rest => some ("=", rest)
  | '>' :: rest => some (">", rest)
  | '<' :: rest => some ("<", rest)
  | _ => none

/-- The parts of a comparison as they stand in a text. -/
structure Parts where
  device : List Char
  property : List Char
  sign : String
  digits : List Char
  deriving DecidableEq, Repr

/-- The comparison that a text starts with. -/
def readHere? (cs : List Char) : Option Parts :=
  let device := cs.takeWhile isDeviceChar
  match cs.dropWhile isDeviceChar with
  | ':' :: cs =>
    let property := cs.takeWhile isPropertyChar
    match readSign? ((cs.dropWhile isPropertyChar).dropWhile Text.isBlank) with
    | some (sign, cs) =>
      let digits := (cs.dropWhile Text.isBlank).takeWhile Text.isDecimalDigit
      if device.isEmpty ∨ property.isEmpty ∨ digits.isEmpty then none
      else some ⟨device, property, sign, digits⟩
    | none => none
  | _ => none

/-- The first comparison in a text. -/
def search? : List Char → Option Parts
  | [] => none
  | c :: rest => (readHere? (c :: rest)).or (search? rest)

/-- Reads a condition. The digits of other scripts are digits, and yet no number can be read from
them. -/
def read (input : String) : Except ConditionError Condition :=
  match search? input.toList with
  | none => .error (.unreadable input)
  | some parts =>
    match CompareOp.ofSign? parts.sign with
    | none => .error (.unknownOperator parts.sign)
    | some operator =>
      if parts.digits.all Text.isAsciiDigit then
        .ok
          { device := String.ofList parts.device
            property := String.ofList parts.property
            operator
            literal := Decimal.toFloat ⟨Text.ofDigits parts.digits, 0⟩ }
      else .error (.unreadable input)

end Signalbox.Condition
