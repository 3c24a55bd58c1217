import Signalbox.Decimal.Basic
import Signalbox.Text.DecimalDigit

/-!
# Reading floats

`readFloat?` reads a text as a number: an optional sign, then one of the words `inf`, `infinity` and
`nan` in any case, or digits with at most one point and an optional exponent. The float is the one
nearest to the number written.
-/

namespace Signalbox

namespace Decimal

/-- The float nearest to a decimal. Far outside the range of the floats the answer is known without
the power of ten. -/
def toFloat (d : Decimal) : Float :=
  let size := (Nat.toDigits 10 d.digits).length + d.exponent
  if d.digits = 0 ∨ size < -400 then 0
  else if 400 < size then 1 / 0
  else Float.ofScientific d.digits (d.exponent < 0) d.exponent.natAbs

/-- The part of a number after its mantissa: an exponent or nothing. -/
def readExponent? (cs : List Char) : Option Int :=
  match cs with
  | [] => some 0
  | c :: rest =>
    if c ≠ 'e' ∧ c ≠ 'E' then none
    else
      let (negative, digits) := match rest with
        | '-' :: ds => (true, ds)
        | '+' :: ds => (false, ds)
        | ds => (false, ds)
      if digits.isEmpty ∨ ¬ digits.all Text.isAsciiDigit then none
      else
        let e : Int := Text.ofDigits digits
        some (if negative then -e else e)

/-- An unsigned decimal: digits on at least one side of an optional point, and an exponent. -/
def read? (cs : List Char) : Option Decimal :=
  let whole := cs.takeWhile Text.isAsciiDigit
  let afterWhole := cs.dropWhile Text.isAsciiDigit
  let (fraction, afterFraction) := match afterWhole with
    | '.' :: rest => (rest.takeWhile Text.isAsciiDigit, rest.dropWhile Text.isAsciiDigit)
    | rest => ([], rest)
  if whole.isEmpty ∧ fraction.isEmpty then none
  else (readExponent? afterFraction).map fun e =>
    ⟨Text.ofDigits (whole ++ fraction), e - fraction.length⟩

end Decimal

/-- A number without its sign, or one of the words for what is not finite. -/
def readMagnitude? (cs : List Char) : Option Float :=
  let word := String.ofList (cs.map Char.toLower)
  if word = "inf" ∨ word = "infinity" then some (1 / 0)
  else if word = "nan" then some (0 / 0)
  else (Decimal.read? cs).map Decimal.toFloat

/-- The float that a text denotes. -/
def readFloat? (cs : List Char) : Option Float :=
  match cs with
  | '-' :: rest => (readMagnitude? rest).map (- ·)
  | '+' :: rest => readMagnitude? rest
  | _ => readMagnitude? cs

end Signalbox
