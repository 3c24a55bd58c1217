import Signalbox.Decimal.Layout
import Signalbox.Text.DecimalDigit

/-!
# Numbers in documents

A number of a document is a whole number of 64 bits or a float, and keeps which of the two it was
written as. Reading a float is a matter of best effort: `Number.ofParts?` collects the digits in 64
bits and scales them by one power of ten, each step rounded, so the last place may differ from the
nearest float's.
-/

namespace Signalbox

/-- A number of a document. -/
inductive Number where
  | int (n : Int)
  | float (x : Float)
  deriving DecidableEq, BEq, Repr, Inhabited

namespace Number

/-- The largest whole number a document keeps as such. -/
def largestInt : Nat := UInt64.size - 1

/-- The number as a float, rounded to the nearest. -/
def toFloat : Number → Float
  | .int n => Float.ofInt n
  | .float x => x

/-- The number as documents write it. -/
def text : Number → String
  | .int n => toString n
  | .float x => Layout.document.write x

/-- Divides by a power of ten, at most `10 ^ 308` at a time. Three steps bring every 64-bit count to
zero. -/
def scaleDown : (rounds : Nat) → Float → Nat → Float
  | 0, x, _ => x
  | rounds + 1, x, e =>
    if e ≤ 308 then x / Float.ofScientific 1 false e
    else scaleDown rounds (x / Float.ofScientific 1 false 308) (e - 308)

/-- A count of a power of ten, `none` when it is too large for a float. -/
def scale? (count : Nat) (e : Int) : Option Float :=
  let x := count.toFloat
  if e < 0 then some (scaleDown 4 x e.natAbs)
  else if e ≤ 308 then
    let scaled := x * Float.ofScientific 1 false e.toNat
    if scaled.isInf then none else some scaled
  else if count = 0 then some x
  else none

/-- Whole digits collected as long as they fit in 64 bits, and the count of the digits left out. -/
def collectWhole : (count : Nat) → List Char → Nat × Nat
  | count, [] => (count, 0)
  | count, c :: rest =>
    let next := 10 * count + (c.toNat - 48)
    if next ≤ largestInt then collectWhole next rest else (count, rest.length + 1)

/-- Fraction digits collected as long as they fit in 64 bits, and the count of the digits taken. -/
def collectFraction : (count : Nat) → List Char → Nat × Nat
  | count, [] => (count, 0)
  | count, c :: rest =>
    let next := 10 * count + (c.toNat - 48)
    if next ≤ largestInt then
      let (total, taken) := collectFraction next rest
      (total, taken + 1)
    else (count, 0)

/-- The parts of a number token. `exponent` is there when one was written. -/
structure Parts where
  negative : Bool
  whole : List Char
  fraction : Option (List Char)
  exponent : Option Int
  deriving Repr

/-- Exponents beyond this are not computed with. -/
def largestExponent : Int := 0x7fffffff

/-- The float that a number token denotes, `none` when it is out of range. -/
def floatOfParts? (p : Parts) : Option Float :=
  let (kept, leftOut) := collectWhole 0 p.whole
  let (count, taken) := collectFraction kept (p.fraction.getD [])
  let e := p.exponent.getD 0
  let magnitude :=
    if largestExponent < e then if count = 0 then some 0 else none
    else if e < -largestExponent then some 0
    else scale? count (e + leftOut - taken)
  magnitude.map fun x => if p.negative then -x else x

/-- The number that a token denotes: a whole number if it is written as one and fits in 64 bits,
a negative one in 63, and a float otherwise, a negative zero among them. -/
def ofParts? (p : Parts) : Option Number :=
  let (count, leftOut) := collectWhole 0 p.whole
  if p.fraction.isNone ∧ p.exponent.isNone ∧ leftOut = 0 then
    if ¬ p.negative then some (.int count)
    else if count = 0 ∨ 0x8000000000000000 < count then some (.float (-count.toFloat))
    else some (.int (-count))
  else (floatOfParts? p).map .float

end Number

end Signalbox
