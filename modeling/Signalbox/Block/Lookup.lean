import Signalbox.Block.Basic

/-!
# Looking up blocks

Blocks are looked up by id, depth first and in the order of the document. `findIn?` gives the first block
with an id and `parentIn?` the block that it is a child of; `editFirstIn?` and `editParentIn?` change these
two in place and leave everything else as it is.
-/

namespace Signalbox.Block

mutual

/-- The ids of a block and of everything inside it, in the order of the document. -/
def ids : Block → List String
  | .container id _ _ children => id :: idsIn children
  | .statement id .. => [id]

/-- The ids in a list of blocks, in the order of the document. -/
def idsIn : List Block → List String
  | [] => []
  | block :: rest => block.ids ++ idsIn rest

end

mutual

/-- The first block with an id, the block itself or one inside it. -/
def find? (id : String) : Block → Option Block
  | .container own position kind children =>
    if own = id then some (.container own position kind children) else findIn? id children
  | .statement own position kind =>
    if own = id then some (.statement own position kind) else none

/-- The first block with an id in a list of blocks and everything inside them. -/
def findIn? (id : String) : List Block → Option Block
  | [] => none
  | block :: rest => (block.find? id).or (findIn? id rest)

end

/-- Holds when one of the blocks has an id; what is inside them does not count. -/
def hasChild (id : String) (blocks : List Block) : Bool :=
  blocks.any (·.id = id)

mutual

/-- The block that has a child with an id, the block itself or one inside it. -/
def parent? (id : String) : Block → Option Block
  | .container own position kind children =>
    if hasChild id children then some (.container own position kind children)
    else parentIn? id children
  | .statement .. => none

/-- The first block in a list of blocks that has a child with an id. A block of the list that has the id
itself ends the search. -/
def parentIn? (id : String) : List Block → Option Block
  | [] => none
  | block :: rest =>
    if block.id = id then none else (block.parent? id).or (parentIn? id rest)

end

mutual

/-- Changes the first block with an id, the block itself or one inside it, and gives what the change
answers. -/
def editFirst? (id : String) (edit : Block → α × Block) : Block → Option (α × Block)
  | .container own position kind children =>
    if own = id then some (edit (.container own position kind children))
    else
      match editFirstIn? id edit children with
      | some (answer, children) => some (answer, .container own position kind children)
      | none => none
  | .statement own position kind =>
    if own = id then some (edit (.statement own position kind)) else none

/-- Changes the first block with an id in a list of blocks and everything inside them. -/
def editFirstIn? (id : String) (edit : Block → α × Block) : List Block → Option (α × List Block)
  | [] => none
  | block :: rest =>
    match editFirst? id edit block with
    | some (answer, block) => some (answer, block :: rest)
    | none =>
      match editFirstIn? id edit rest with
      | some (answer, rest) => some (answer, block :: rest)
      | none => none

end

mutual

/-- Changes the block that has a child with an id, the block itself or one inside it. -/
def editParent? (id : String) (edit : Block → α × Block) : Block → Option (α × Block)
  | .container own position kind children =>
    if hasChild id children then some (edit (.container own position kind children))
    else
      match editParentIn? id edit children with
      | some (answer, children) => some (answer, .container own position kind children)
      | none => none
  | .statement .. => none

/-- Changes the first block in a list of blocks that has a child with an id. -/
def editParentIn? (id : String) (edit : Block → α × Block) : List Block → Option (α × List Block)
  | [] => none
  | block :: rest =>
    if block.id = id then none
    else
      match editParent? id edit block with
      | some (answer, block) => some (answer, block :: rest)
      | none =>
        match editParentIn? id edit rest with
        | some (answer, rest) => some (answer, block :: rest)
        | none => none

end

end Signalbox.Block
