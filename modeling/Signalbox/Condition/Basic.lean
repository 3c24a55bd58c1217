import Signalbox.Json.Basic

/-!
# Conditions

A condition compares a property of one device with a number.
-/

namespace Signalbox

/-- The comparisons. -/
inductive CompareOp where
  | eq
  | ne
  | gt
  | ge
  | lt
  | le
  deriving DecidableEq, Repr, Inhabited

namespace CompareOp

/-- The sign of a comparison. -/
def sign : CompareOp → String
  | .eq => "="
  | .ne => "!="
  | .gt => ">"
  | .ge => ">="
  | .lt => "<"
  | .le => "<="

/-- The comparison with a sign; equality has two. -/
def ofSign? : String → Option CompareOp
  | "=" => some .eq
  | "==" => some .eq
  | "!=" => some .ne
  | ">" => some .gt
  | ">=" => some .ge
  | "<" => some .lt
  | "<=" => some .le
  | _ => none

/-- Compares two numbers. A NaN is unequal to everything and otherwise not comparable. -/
def holds : CompareOp → Float → Float → Bool
  | .eq, a, b => a == b
  | .ne, a, b => a != b
  | .gt, a, b => b < a
  | .ge, a, b => b ≤ a
  | .lt, a, b => a < b
  | .le, a, b => a ≤ b

end CompareOp

/-- A comparison of a device's property with a number. -/
structure Condition where
  device : String
  property : String
  operator : CompareOp
  literal : Float
  deriving Repr, Inhabited

/-- A reason why a condition has no outcome. -/
inductive ConditionError where
  | unreadable (input : String)
  | unknownDevice (device : String)
  | unknownOperator (sign : String)
  deriving DecidableEq, Repr

/-- The wording of an error. -/
def ConditionError.message : ConditionError → String
  | .unreadable input => s!"invalid condition '{input}': expected DEVICE:property OP number"
  | .unknownDevice device => s!"unknown device '{device}'"
  | .unknownOperator sign => s!"unknown operator '{sign}'"

namespace Condition

/-- A condition in its usual spelling. -/
def display (c : Condition) : String :=
  s!"{c.device}:{c.property} {c.operator.sign} {Layout.plain.write c.literal}"

/-- A condition as a document: the comparison and what it compares. -/
def toJson (c : Condition) : Json :=
  .map [("operator", .str c.operator.sign),
    ("children", .list
      [.map [("device", .str c.device), ("property", .str c.property)],
       .map [("value", .ofFloat c.literal)]])]

end Condition

end Signalbox
