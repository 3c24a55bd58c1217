import Signalbox.Editor.Detach
import Signalbox.Program.Fresh
import Signalbox.Snap.Basic

/-!
# Diagrams

A diagram is a program under edit. A list of blocks that is being moved is first split off into a new dummy
at the top level, and then committed: its blocks go to their new place and the dummy goes away. A list that
finds no new place stays in its dummy.
-/

namespace Signalbox

/-- A reason why a commit is refused: the target is the dragged block, or it moves along with it. -/
inductive RejectReason where
  | selfSnap
  | insideDragged
  deriving DecidableEq, Repr

/-- The outcome of a commit. -/
inductive SnapOutcome where
  /-- The list stands among the children of `parent` from `index` on. -/
  | committed (parent : String) (index moved : Nat)
  /-- The target offers no place; the list stays in its dummy. -/
  | floating (dummy : String)
  /-- No dummy starts with the dragged block. -/
  | nothingToCommit
  | rejected (reason : RejectReason)
  deriving DecidableEq, Repr

namespace RejectReason

/-- The name of a reason. -/
def name : RejectReason → String
  | .selfSnap => "self-snap"
  | .insideDragged => "inside-dragged"

end RejectReason

namespace SnapOutcome

/-- The entries of an outcome in a document. -/
def entries : SnapOutcome → List (String × Json)
  | .committed parent index moved =>
    [("outcome", .str "committed"), ("parent", .str parent), ("index", .ofNat index),
      ("moved", .ofNat moved)]
  | .floating dummy => [("outcome", .str "floating"), ("dummy", .str dummy)]
  | .nothingToCommit => [("outcome", .str "nothing-to-commit")]
  | .rejected reason => [("outcome", .str "rejected"), ("reason", .str reason.name)]

end SnapOutcome

/-- A program under edit. -/
structure Diagram where
  program : Program
  /-- The number from which the next dummy's number is looked for. It has no bound here; 64 bits are enough for as many
  dummies and blocks as there can be. -/
  dummyCount : Nat
  /-- Where new blocks are put. -/
  spawnPosition : Position
  deriving Repr, Inhabited

/-- Where new blocks are put unless the configuration says otherwise. -/
def defaultSpawnPosition : Position := ⟨50, 50⟩

namespace Block

/-- The place of the first block with an id in a list. -/
def indexIn? (id : String) (blocks : List Block) : Option Nat :=
  blocks.findIdx? (·.id = id)

/-- Inserts a list of blocks among the children of a block. -/
def insertChildren (index : Nat) (list : List Block) (block : Block) : Block :=
  block.withChildren (block.children.take index ++ list ++ block.children.drop index)

/-- Takes out the first block with an id of a list. -/
def removeFrom? (id : String) : List Block → Option (Block × List Block)
  | [] => none
  | block :: rest =>
    if block.id = id then some (block, rest)
    else (removeFrom? id rest).map fun (removed, rest) => (removed, block :: rest)

/-- Replaces the own fields of a block. The children stay when there is a place for them. -/
def withOwnFields (kind : Kind) (block : Block) : Block :=
  let new := kind.toBlock block.id block.position
  match block with
  | .container _ _ _ children => new.withChildren children
  | .statement .. => new

end Block

/-- A top-level block that was taken out of a program and emptied. -/
structure TakenOut where
  /-- The place among the top-level blocks where the block stood. -/
  place : Nat
  /-- The block without its children. -/
  holder : Block
  /-- The children of the block. -/
  list : List Block
  /-- The other top-level blocks. -/
  rest : List Block

/-- Takes the first top-level block with an id out of a program, and its children out of the block. -/
def Program.takeOut? (p : Program) (id : String) : Option TakenOut := do
  let place ← Block.indexIn? id p.blocks
  let (holder, rest) ← Block.removeFrom? id p.blocks
  return ⟨place, holder.withChildren [], holder.children, rest⟩

/-- Puts the children back into the block, and the block back to its place. -/
def TakenOut.putBack (t : TakenOut) : Program :=
  ⟨t.rest.insertIdx t.place (t.holder.withChildren t.list)⟩

namespace Diagram

/-- The diagram of a program. -/
def ofProgram (p : Program) (spawnPosition : Position) : Diagram :=
  ⟨p, 1, spawnPosition⟩

/-- The dummy that has the block with an id for its first child. -/
def dummyFor? (d : Diagram) (id : String) : Option Block :=
  d.program.blocks.find? fun block => block.isDummy && block.children.head?.any (·.id = id)

/-- A new dummy without children, which is not part of the program yet. Its number is used up. -/
def createDummy (d : Diagram) (position : Position) : Block × Diagram :=
  let n := d.program.nextDummy d.dummyCount
  (.container (dummyName n) (some position) .dummy [], { d with dummyCount := n + 1 })

/-- Splits a block and the siblings that follow it off into a new dummy, and gives the dummy's id. When the
block is the first of a dummy already, that one serves. -/
def split (d : Diagram) (id : String) (position : Position) : Except EditError String × Diagram :=
  match d.dummyFor? id with
  | some dummy => (.ok dummy.id, d)
  | none =>
    let (dummy, d) := d.createDummy position
    match d.program.detach id with
    | .error e => (.error e, d)
    | .ok (detached, p) => (.ok dummy.id, { d with program := p.push (dummy.withChildren detached) })

/-- Moves a top-level block and raises it to the end of the list; the answer is whether there is one. -/
def setPosition (d : Diagram) (id : String) (position : Position) : Bool × Diagram :=
  match Block.removeFrom? id d.program.blocks with
  | none => (false, d)
  | some (block, rest) => (true, { d with program := ⟨rest ++ [block.withPosition position]⟩ })

/-- The parent and the place among its children where a list dropped on a block goes. -/
def target? (d : Diagram) (hover : String) : SnapType → Option (String × Nat)
  | .inner =>
    match d.program.find? hover with
    | some block => if block.isContainer then some (block.id, 0) else none
    | none => none
  | .append => do
    let parent ← d.program.parent? hover
    let index ← Block.indexIn? hover parent.children
    return (parent.id, index + 1)

/-- Inserts a list among the children of the first block with an id, if that is a container. -/
def insertAt? (p : Program) (parent : String) (index : Nat) (list : List Block) : Option Program :=
  match Block.editFirstIn? parent (fun block => (block.isContainer, block.insertChildren index list))
      p.blocks with
  | some (true, blocks) => some ⟨blocks⟩
  | _ => none

/-- Moves the list that starts with `dragging` out of its dummy and to the block `hover`. The dummy is taken
out before the parent is looked for in what is left; a list without a parent is put back. -/
def commit (d : Diagram) (hover : String) (snap : SnapType) (dragging : String) :
    SnapOutcome × Diagram :=
  match d.dummyFor? dragging with
  | none => (.nothingToCommit, d)
  | some dummy =>
    if hover = dragging then (.rejected .selfSnap, d)
    else if hover = dummy.id ∨ (Block.findIn? hover dummy.children).isSome then
      (.rejected .insideDragged, d)
    else
      match d.target? hover snap with
      | none => (.floating dummy.id, d)
      | some (parent, index) =>
        match d.program.takeOut? dummy.id with
        | none => (.nothingToCommit, d)
        | some taken =>
          match insertAt? ⟨taken.rest⟩ parent index taken.list with
          | none => (.floating dummy.id, { d with program := taken.putBack })
          | some p => (.committed parent index taken.list.length, { d with program := p })

/-- Adds a block of a kind under a new id, and gives the id. Only once and forever blocks stand at the top
level by themselves; others are put into a new dummy. -/
def addBlock (d : Diagram) (drawn : Nat) (kind : Kind) : String × Diagram :=
  let id := d.program.newId drawn
  if kind.type.isTopLevel then
    (id, { d with program := d.program.push (kind.toBlock id (some d.spawnPosition)) })
  else
    let (dummy, d) := d.createDummy d.spawnPosition
    (id, { d with program := d.program.push (dummy.withChildren [kind.toBlock id none]) })

/-- Replaces the own fields of a block; its id, its position and its children stay. -/
def updateBlock (d : Diagram) (id : String) (kind : Kind) : Except EditError Diagram :=
  match Block.editFirstIn? id (fun block => ((), block.withOwnFields kind)) d.program.blocks with
  | some (_, blocks) => .ok { d with program := ⟨blocks⟩ }
  | none => .error (.notFound id)

end Diagram

end Signalbox
