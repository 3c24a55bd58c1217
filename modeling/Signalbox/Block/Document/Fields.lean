import Signalbox.Block.Basic
import Signalbox.Json.Decode

/-!
# The fields of blocks in documents

The kind of a block is spread over the entries of a map: `type` names it, and every type has fields of its
own. A type may be given by its number or by a second name, and a field that is left out has its default.
-/

namespace Signalbox

open Json (Error)

/-- A scalar. -/
def Scalar.ofJson : Json → Except Error Scalar
  | .num n => .ok (.number n)
  | .str s => .ok (.text s)
  | _ => .error .notScalar

namespace Block

/-- An entry that speaks of a block's kind. `children` is what its value says as a list of blocks, should it
be wanted. -/
structure Entry where
  key : String
  value : Json
  children : Except Error (List Block)

/-- The names that a type may be given by. -/
def typeNames : List String :=
  BlockType.all.flatMap fun type =>
    if type = .deviceSet then [type.name, BlockType.deviceSetAlias] else [type.name]

/-- The type with a name. -/
def typeOfName (name : String) : Except Error BlockType :=
  match BlockType.ofName? name with
  | some type => .ok type
  | none => .error (.unknownVariant name typeNames)

/-- The type that an entry names or, where that is allowed, gives the number of. -/
def readType (numbered : Bool) : Json → Except Error BlockType
  | .str name => typeOfName name
  | .num (.int n) =>
    if numbered ∧ 0 ≤ n then
      match BlockType.all[n.toNat]? with
      | some type => .ok type
      | none => .error (.wrongValue (.int n) s!"variant index 0 <= i < {BlockType.all.length}")
    else .error (.wrongType (.int n) "variant identifier")
  | value => .error (value.mismatch "variant identifier")

/-- Finds the type among the entries: the first `type` counts, and a second is an error. -/
def findType (numbered : Bool) : Option BlockType → List Entry → Except Error (Option BlockType)
  | found, [] => .ok found
  | found, entry :: rest => do
    if entry.key = "type" then
      findType numbered (← Json.once "type" found (readType numbered entry.value)) rest
    else findType numbered found rest

/-- The fields of all kinds, as far as they were given. -/
structure Fields where
  children : Option (List Block) := none
  count : Option UInt32 := none
  condition : Option String := none
  value : Option Scalar := none
  device : Option String := none
  prop : Option String := none

/-- The names of the fields that a type has, in the order in which they are saved. -/
def fieldNames : BlockType → List String
  | .once | .forever | .dummy => ["children"]
  | .loop => ["count", "children"]
  | .branch => ["condition", "children"]
  | .wait => ["condition"]
  | .sleep | .log | .alert => ["value"]
  | .deviceSet => ["device", "prop", "value"]

/-- The name of a field for a key that may be a second name of it. -/
def fieldOfKey (key : String) : String :=
  if key = "property" then "prop" else key

/-- Reads the fields of a type; other entries do not count. -/
def readFields (type : BlockType) : Fields → List Entry → Except Error Fields
  | fields, [] => .ok fields
  | fields, entry :: rest => do
    let field := fieldOfKey entry.key
    if field ∈ fieldNames type then
      match field with
      | "children" =>
        let children ← Json.once field fields.children entry.children
        readFields type { fields with children } rest
      | "count" =>
        let count ← Json.once field fields.count entry.value.count32
        readFields type { fields with count } rest
      | "condition" =>
        let condition ← Json.once field fields.condition entry.value.text
        readFields type { fields with condition } rest
      | "value" =>
        let value ← Json.once field fields.value (Scalar.ofJson entry.value)
        readFields type { fields with value } rest
      | "device" =>
        let device ← Json.once field fields.device entry.value.text
        readFields type { fields with device } rest
      | _ =>
        let prop ← Json.once field fields.prop entry.value.text
        readFields type { fields with prop } rest
    else readFields type fields rest

/-- The kind of a type with the fields given; a field that was not given has its default. -/
def Fields.toKind (fields : Fields) : BlockType → Kind
  | .once => .container .once (fields.children.getD [])
  | .forever => .container .forever (fields.children.getD [])
  | .loop => .container (.loop (fields.count.getD BlockType.defaultLoopCount)) (fields.children.getD [])
  | .branch => .container (.branch (fields.condition.getD "")) (fields.children.getD [])
  | .wait => .statement (.wait (fields.condition.getD ""))
  | .sleep => .statement (.sleep (fields.value.getD BlockType.defaultSleep))
  | .log => .statement (.log (fields.value.getD BlockType.defaultValue))
  | .alert => .statement (.alert (fields.value.getD BlockType.defaultValue))
  | .deviceSet =>
    .statement (.deviceSet (fields.device.getD "") (fields.prop.getD "")
      (fields.value.getD BlockType.defaultValue))
  | .dummy => .container .dummy (fields.children.getD [])

/-- The kind that entries speak of. -/
def readKind (numbered : Bool) (entries : List Entry) : Except Error Kind := do
  let type ← Json.required "type" (← findType numbered none entries)
  let fields ← readFields type {} (entries.filter (·.key ≠ "type"))
  return fields.toKind type

end Block

end Signalbox
