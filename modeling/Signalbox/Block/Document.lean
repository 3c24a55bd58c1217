import Signalbox.Block.Document.Fields
import Signalbox.Block.Document.Position

/-!
# Blocks in documents

A block is a map with an id, perhaps a position, and the entries that speak of its kind. The id and the
position of a top-level block are read where they stand (`Block.ofDraft`); everything else is taken in whole,
up to the end of the block, before it is looked at. Blocks inside a block have been taken in with it
(`Block.ofJson`).
-/

namespace Signalbox

open Json (Error Fault Draft)

namespace Block

/-- What a block's map says besides its kind, and the entries that speak of its kind. -/
structure Head where
  id : Option String := none
  position : Option (Option Position) := none
  others : List (String × Json) := []

/-- Goes through the entries of a block, with readers for the three sorts of value. The other entries are
gathered with the last one first. -/
def readHead (text : α → Except Error String) (position : α → Except Error (Option Position))
    (take : α → Except Error Json) : Head → List (Except Fault String × α) → Except Error Head
  | head, [] => .ok head
  | head, (key, value) :: rest => do
    match ← Json.orFault key with
    | "id" =>
      let id ← Json.once "id" head.id (text value)
      readHead text position take { head with id } rest
    | "position" =>
      let place ← Json.once "position" head.position (position value)
      readHead text position take { head with position := place } rest
    | key =>
      let value ← take value
      readHead text position take { head with others := (key, value) :: head.others } rest

/-- A position or null in a block that was taken in. -/
def positionOfJson : Json → Except Error (Option Position)
  | .null => .ok none
  | value => (Position.ofJson value).map some

/-- A position or null in a block that is read where it stands. -/
def positionOfDraft (depth : Nat) (draft : Draft) : Except Error (Option Position) :=
  match draft with
  | .null => .ok none
  | draft => (Position.ofDraft depth draft).map some

/-- The block that a head and its entries speak of. -/
def ofHead (head : Head) (entries : List Entry) : Except Error Block := do
  let id ← Json.required "id" head.id
  let kind ← readKind true entries
  return kind.toBlock id (head.position.getD none)

/-- The entries of a block that was taken in which do not speak of its kind. -/
def headKeys : List String := ["id", "position"]

mutual

/-- A block that was taken in. -/
def ofJson : Json → Except Error Block
  | .map entries => do
    let head ← readHead Json.text positionOfJson .ok {}
      (entries.map fun (key, value) => (.ok key, value))
    ofHead head ((entriesOf entries).filter (·.key ∉ headKeys))
  | value => .error (value.mismatch "struct Block")

/-- Blocks that were taken in. -/
def listOfJson : Json → Except Error (List Block)
  | .list items => ofItems items
  | value => .error (value.mismatch "a sequence")

/-- The blocks of a list. -/
def ofItems : List Json → Except Error (List Block)
  | [] => .ok []
  | item :: rest => do
    let block ← ofJson item
    let rest ← ofItems rest
    return block :: rest

/-- The entries of a map, each with what it says as a list of blocks. -/
def entriesOf : List (String × Json) → List Entry
  | [] => []
  | (key, value) :: rest => ⟨key, value, listOfJson value⟩ :: entriesOf rest

end

/-- A block that is read where it stands. -/
def ofDraft (depth : Nat) (draft : Draft) : Except Error Block :=
  match draft with
  | .map entries stop =>
    match Json.enter? depth with
    | none => .error (.malformed .tooDeep)
    | some inner => do
      let head ← readHead Draft.text (positionOfDraft inner)
        (fun value => Json.orFault (value.buffer inner)) {} entries
      Json.orFault (Draft.pass stop)
      ofHead head (entriesOf head.others.reverse)
  | draft => .error (draft.mismatch "struct Block")

/-- Blocks that are read where they stand. -/
def ofDrafts (depth : Nat) : List Draft → Except Error (List Block)
  | [] => .ok []
  | draft :: rest => do
    let block ← ofDraft depth draft
    let rest ← ofDrafts depth rest
    return block :: rest

/-- The own fields of a container as documents hold them. -/
def containerFields : ContainerKind → List (String × Json)
  | .loop count => [("count", .ofNat count.toNat)]
  | .branch condition => [("condition", .str condition)]
  | .once | .forever | .dummy => []

/-- The own fields of a statement as documents hold them. -/
def statementFields : StatementKind → List (String × Json)
  | .wait condition => [("condition", .str condition)]
  | .sleep value | .log value | .alert value => [("value", value.toJson)]
  | .deviceSet device prop value =>
    [("device", .str device), ("prop", .str prop), ("value", value.toJson)]

/-- The id and the position of a block as documents hold them; no position is not written. -/
def headFields (id : String) (position : Option Position) : List (String × Json) :=
  ("id", .str id) ::
    match position with
    | some position => [("position", position.toJson)]
    | none => []

mutual

/-- A block as documents hold it. -/
def toJson : Block → Json
  | .container id position kind children =>
    .map (headFields id position ++ ("type", .str kind.type.name) :: containerFields kind ++
      [("children", .list (toItems children))])
  | .statement id position kind =>
    .map (headFields id position ++ ("type", .str kind.type.name) :: statementFields kind)

/-- Blocks as documents hold them. -/
def toItems : List Block → List Json
  | [] => []
  | block :: rest => toJson block :: toItems rest

end

end Block

namespace Kind

/-- The kind that a document by itself speaks of: a map, or a list of the name of the type and the values of
its fields. -/
def ofJson : Json → Except Error Kind
  | .map entries => Block.readKind false (Block.entriesOf entries)
  | .list [] => .error (.missingField "type")
  | .list (type :: values) => do
    let type ← Block.readType false type
    let names := Block.fieldNames type
    let fields ← Block.readFields type {} (Block.entriesOf (names.zip values))
    if values.length ≤ names.length then return fields.toKind type
    else
      let elements := if names.length = 1 then "element" else "elements"
      .error (.wrongLength values.length s!"{names.length} {elements} in sequence")
  | value => .error (value.mismatch "internally tagged enum BlockKind")

/-- The kind as documents hold it. -/
def toJson : Kind → Json
  | .container kind children =>
    .map (("type", .str kind.type.name) :: Block.containerFields kind ++
      [("children", .list (Block.toItems children))])
  | .statement kind => .map (("type", .str kind.type.name) :: Block.statementFields kind)

end Kind

end Signalbox
