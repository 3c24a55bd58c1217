import Signalbox.Block.Basic
import Signalbox.Json.Decode

/-!
# Positions in documents

A position is a map of its two coordinates or a list of them. It is read from a document that was taken in,
or where it stands in a text.
-/

namespace Signalbox

open Json (Error Fault Draft)

namespace Position

/-- The position as documents hold it. -/
def toJson (p : Position) : Json :=
  .map [("x", .ofFloat p.x), ("y", .ofFloat p.y)]

/-- The expectation where a position should stand. -/
def expected : String := "struct Position"

/-- The expectation where a list is too short for a position. -/
def expectedPair : String := "struct Position with 2 elements"

/-- Reads the fields of a position from entries of any kind, whose values are read by `float` and passed
over by `skip`. -/
def readFields (float : α → Except Error Float) (skip : α → Except Error Unit) :
    (x y : Option Float) → List (Except Fault String × α) → Except Error (Option Float × Option Float)
  | x, y, [] => .ok (x, y)
  | x, y, (key, value) :: rest => do
    match ← Json.orFault key with
    | "x" => readFields float skip (← Json.once "x" x (float value)) y rest
    | "y" => readFields float skip x (← Json.once "y" y (float value)) rest
    | _ =>
      skip value
      readFields float skip x y rest

/-- A position whose two fields have been read. -/
def ofFields (fields : Option Float × Option Float) : Except Error Position := do
  let x ← Json.required "x" fields.1
  let y ← Json.required "y" fields.2
  return ⟨x, y⟩

/-- The position of a block that was taken in. -/
def ofJson : Json → Except Error Position
  | .map entries => do
    ofFields (← readFields Json.float (fun _ => .ok ()) none none
      (entries.map fun (key, value) => (.ok key, value)))
  | .list [] => .error (.wrongLength 0 expectedPair)
  | .list [x] => do
    let _ ← x.float
    .error (.wrongLength 1 expectedPair)
  | .list (x :: y :: rest) => do
    let x ← x.float
    let y ← y.float
    if rest.isEmpty then return ⟨x, y⟩
    else .error (.wrongLength (rest.length + 2) "2 elements in sequence")
  | value => .error (value.mismatch expected)

/-- The fault at the end of a list that should have ended here. -/
def listEnd (stop : Option Json.Stop) : Except Fault Unit :=
  match stop with
  | none => .ok ()
  | some ⟨.trailingComma, _⟩ => .error .trailingComma
  | some ⟨.endInList, _⟩ => .error .endInList
  | some _ => .error .trailingCharacters

/-- The position of a block that is read where it stands. -/
def ofDraft (depth : Nat) (draft : Draft) : Except Error Position :=
  match draft with
  | .map entries stop =>
    match Json.enter? depth with
    | none => .error (.malformed .tooDeep)
    | some _ => do
      let fields ← readFields Draft.float (fun value => Json.orFault value.skip) none none entries
      Json.orFault (Draft.pass stop)
      ofFields fields
  | .list items stop =>
    match Json.enter? depth with
    | none => .error (.malformed .tooDeep)
    | some _ =>
      match items with
      | [] => do
        Json.orFault (Draft.pass stop)
        .error (.wrongLength 0 expectedPair)
      | [x] => do
        let _ ← x.float
        Json.orFault (Draft.pass stop)
        .error (.wrongLength 1 expectedPair)
      | x :: y :: rest => do
        let x ← x.float
        let y ← y.float
        if rest.isEmpty then Json.orFault (listEnd stop)
        else .error (.malformed .trailingCharacters)
        return ⟨x, y⟩
  | draft => .error (draft.mismatch expected)

end Position

end Signalbox
