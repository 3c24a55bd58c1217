import Signalbox.Program.Basic

/-!
# Detaching blocks

A block is detached together with the siblings that follow it.
-/

namespace Signalbox

/-- A reason why an edit cannot be made. -/
inductive EditError where
  | notFound (id : String)
  | topLevel (id : String)
  deriving DecidableEq, Repr

/-- The wording of an error. -/
def EditError.message : EditError → String
  | .notFound id => s!"block '{id}' not found"
  | .topLevel id => s!"block '{id}' is top-level and cannot be split from a parent"

namespace Block

/-- Cuts the children of a block in front of the first with an id: the ones from there on, and the block with
the ones before. -/
def cutChildren (id : String) (block : Block) : List Block × Block :=
  (block.children.dropWhile (·.id ≠ id), block.withChildren (block.children.takeWhile (·.id ≠ id)))

end Block

/-- Detaches a block and the siblings that follow it: the detached list and what is left of the
program. -/
def Program.detach (p : Program) (id : String) : Except EditError (List Block × Program) :=
  if p.isTopLevel id then .error (.topLevel id)
  else
    match Block.editParentIn? id (Block.cutChildren id) p.blocks with
    | some (detached, blocks) => .ok (detached, ⟨blocks⟩)
    | none => .error (.notFound id)

end Signalbox
