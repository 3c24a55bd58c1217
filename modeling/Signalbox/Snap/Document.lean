import Signalbox.Json.Decode
import Signalbox.Snap.Basic

/-!
# Snap points in documents

An anchor is a map, or a list of its type and its insets in a fixed order. The type is a name, or a map
with the name for its only key and null for its value.
-/

namespace Signalbox

open Json (Error)

namespace SnapType

/-- The snap type with the name that documents use. -/
def ofVariant (name : String) : Except Error SnapType :=
  match [SnapType.inner, SnapType.append].find? (·.name = name) with
  | some type => .ok type
  | none => .error (.unknownVariant name ["inner", "append"])

/-- The snap type that a value stands for. -/
def ofJson : Json → Except Error SnapType
  | .str name => ofVariant name
  | .map [(name, value)] => do
    let type ← ofVariant name
    match value with
    | .null => return type
    | value => .error (value.mismatch "unit")
  | .map _ => .error (.wrongValue .map "map with a single key")
  | value => .error (value.mismatch "string or map")

end SnapType

namespace SnapPoint

/-- The insets of an anchor and its type, as far as they were given. -/
structure Fields where
  type : Option SnapType := none
  x : Option (Option Float) := none
  left : Option (Option Float) := none
  y : Option (Option Float) := none
  top : Option (Option Float) := none
  right : Option (Option Float) := none
  bottom : Option (Option Float) := none

/-- Reads the fields of an anchor; other entries do not count. -/
def readFields : Fields → List (String × Json) → Except Error Fields
  | fields, [] => .ok fields
  | fields, (key, value) :: rest => do
    match key with
    | "type" =>
      readFields { fields with type := ← Json.once key fields.type (SnapType.ofJson value) } rest
    | "x" => readFields { fields with x := ← Json.once key fields.x value.optionalFloat } rest
    | "left" => readFields { fields with left := ← Json.once key fields.left value.optionalFloat } rest
    | "y" => readFields { fields with y := ← Json.once key fields.y value.optionalFloat } rest
    | "top" => readFields { fields with top := ← Json.once key fields.top value.optionalFloat } rest
    | "right" => readFields { fields with right := ← Json.once key fields.right value.optionalFloat } rest
    | "bottom" => readFields { fields with bottom := ← Json.once key fields.bottom value.optionalFloat } rest
    | _ => readFields fields rest

/-- The order of the fields where an anchor is a list. -/
def fieldNames : List String :=
  ["type", "x", "left", "y", "top", "right", "bottom"]

/-- The anchor with the fields given. -/
def ofFields (type : SnapType) (fields : Fields) : SnapPoint :=
  { type
    x := fields.x.getD none
    left := fields.left.getD none
    y := fields.y.getD none
    top := fields.top.getD none
    right := fields.right.getD none
    bottom := fields.bottom.getD none }

/-- The anchor that a value stands for. -/
def ofJson : Json → Except Error SnapPoint
  | .map entries => do
    let fields ← readFields {} entries
    return ofFields (← Json.required "type" fields.type) fields
  | .list values => do
    let fields ← readFields {} (fieldNames.zip values)
    match fields.type with
    | none => .error (.wrongLength 0 s!"struct SnapPoint with {fieldNames.length} elements")
    | some type =>
      if values.length ≤ fieldNames.length then return ofFields type fields
      else .error (.wrongLength values.length "fewer elements in array")
  | value => .error (value.mismatch "struct SnapPoint")

/-- The anchors of a list. -/
def listOfJson : Json → Except Error (List SnapPoint)
  | .list items => items.mapM ofJson
  | value => .error (value.mismatch "a sequence")

end SnapPoint

end Signalbox
