import Signalbox.Block.Lookup

/-!
# Programs

A program is its list of top-level blocks.
-/

namespace Signalbox

/-- A program. -/
structure Program where
  blocks : List Block
  deriving BEq, Repr, Inhabited

namespace Program

/-- A new program: an empty setup and an empty loop. -/
def starter : Program :=
  ⟨[BlockType.once.defaultKind.toBlock "setup" none, BlockType.forever.defaultKind.toBlock "loop" none]⟩

/-- The ids of all blocks, depth first in the order of the document. -/
def ids (p : Program) : List String :=
  Block.idsIn p.blocks

/-- The first block with an id. -/
def find? (p : Program) (id : String) : Option Block :=
  Block.findIn? id p.blocks

/-- Holds when some block has the id. -/
def contains (p : Program) (id : String) : Bool :=
  (p.find? id).isSome

/-- The block that has a child with an id; none for the id of a top-level block. -/
def parent? (p : Program) (id : String) : Option Block :=
  Block.parentIn? id p.blocks

/-- Holds when a top-level block has the id. -/
def isTopLevel (p : Program) (id : String) : Bool :=
  Block.hasChild id p.blocks

/-- The first top-level block of a type. -/
def firstOfType? (p : Program) (type : BlockType) : Option Block :=
  p.blocks.find? (·.type = type)

/-- The program with another top-level block at its end. -/
def push (p : Program) (block : Block) : Program :=
  ⟨p.blocks ++ [block]⟩

end Program

end Signalbox
