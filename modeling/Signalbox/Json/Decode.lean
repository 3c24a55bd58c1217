import Signalbox.Json.Draft

/-!
# Typed parts of a document

The readers of single values, for drafts and for whole documents: a text, a float, a count, a place that
may be null. Each names what it expected when it finds something else.
-/

namespace Signalbox.Json

/-- A text. -/
def text : Json → Except Error String
  | .str s => .ok s
  | value => .error (value.mismatch "a string")

/-- A float; whole numbers are rounded to the nearest. -/
def float : Json → Except Error Float
  | .num n => .ok n.toFloat
  | value => .error (value.mismatch "f64")

/-- A count of 32 bits, which must be written as a whole number. -/
def count32 : Json → Except Error UInt32
  | .num (.int n) =>
    if 0 ≤ n ∧ n < UInt32.size then .ok n.toNat.toUInt32
    else .error (.wrongValue (.int n) "u32")
  | value => .error (value.mismatch "u32")

/-- A float or null. -/
def optionalFloat : Json → Except Error (Option Float)
  | .null => .ok none
  | value => value.float.map some

namespace Draft

/-- A text. -/
def text : Draft → Except Error String
  | .str s => .ok s
  | draft => .error (draft.mismatch "a string")

/-- A float; whole numbers are rounded to the nearest. -/
def float : Draft → Except Error Float
  | .num n => .ok n.toFloat
  | draft => .error (draft.mismatch "f64")

end Draft

/-- An outcome whose only error is a fault. -/
def orFault (outcome : Except Fault α) : Except Error α :=
  outcome.mapError .malformed

/-- Stores the value of a field that may be given once. -/
def once (field : String) (stored : Option α) (value : Except Error α) : Except Error (Option α) :=
  match stored with
  | some _ => .error (.duplicateField field)
  | none => value.map some

/-- The value of a field that must be given. -/
def required (field : String) : Option α → Except Error α
  | some value => .ok value
  | none => .error (.missingField field)

end Signalbox.Json
