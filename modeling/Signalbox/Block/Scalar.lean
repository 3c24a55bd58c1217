import Signalbox.Decimal.Reading
import Signalbox.Json.Basic
import Signalbox.Text.Blank

/-!
# Scalars

The value that a sleep, log, alert or device-set block carries is a number or a text and is kept as it
was entered. Where a number is needed, a text is read as one.
-/

namespace Signalbox

/-- The number that a text stands for: blanks at its ends do not count, the empty text is zero, and a
text that is no number is NaN. -/
def numericText (s : String) : Float :=
  let trimmed := Text.trim s.toList
  if trimmed.isEmpty then 0 else (readFloat? trimmed).getD (0 / 0)

/-- A number or a text. -/
inductive Scalar where
  | number (n : Number)
  | text (s : String)
  deriving DecidableEq, BEq, Repr, Inhabited

namespace Scalar

/-- The scalar as a number. -/
def toFloat : Scalar → Float
  | .number n => n.toFloat
  | .text s => numericText s

/-- The scalar as messages and outlines show it. -/
def display : Scalar → String
  | .number n => n.text
  | .text s => s

/-- The scalar as documents hold it. -/
def toJson : Scalar → Json
  | .number n => .num n
  | .text s => .str s

end Scalar

end Signalbox
