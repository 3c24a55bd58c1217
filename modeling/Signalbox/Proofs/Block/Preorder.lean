import Signalbox.Program.Problems
import Signalbox.Proofs.Block.Node

/-!
# A program as one list of blocks

`Block.preorderIn` puts a list of blocks and everything inside them into one list, in the order of the
document. The walks through a tree that look at every block are walks through this list.

Main results:

* `Block.idsIn_eq_map_preorderIn`, `Block.nodesIn_true_eq_map_preorderIn` and
  `Block.conditionProblemsIn_eq_flatMap_preorderIn`: three such walks.
* `Program.find?_eq_some_of_mem`: with distinct ids every block is found by its id.
-/

namespace Signalbox

namespace Block

mutual

/-- A block and everything inside it, in the order of the document. -/
def preorder : Block → List Block
  | .container id position kind children => .container id position kind children :: preorderIn children
  | .statement id position kind => [.statement id position kind]

/-- A list of blocks and everything inside them, in the order of the document. -/
def preorderIn : List Block → List Block
  | [] => []
  | block :: rest => block.preorder ++ preorderIn rest

end

theorem preorder_eq_cons (block : Block) : block.preorder = block :: preorderIn block.children := by
  cases block <;> rfl

/-- The blocks of a list are among those in it. -/
theorem mem_preorderIn {block : Block} {blocks : List Block} (h : block ∈ blocks) :
    block ∈ preorderIn blocks := by
  induction blocks with
  | nil => exact absurd h List.not_mem_nil
  | cons head rest ih =>
    rw [preorderIn, preorder_eq_cons, List.cons_append]
    rcases List.mem_cons.mp h with rfl | hrest
    · exact List.mem_cons_self
    · exact List.mem_cons_of_mem _ (List.mem_append_right _ (ih hrest))

/-- What is inside a block of a list is inside the list. -/
theorem preorderIn_children_subset {block : Block} {blocks : List Block} (h : block ∈ blocks) :
    preorderIn block.children ⊆ preorderIn blocks := by
  induction blocks with
  | nil => exact absurd h List.not_mem_nil
  | cons head rest ih =>
    rw [preorderIn, preorder_eq_cons, List.cons_append]
    refine fun x hx => List.mem_cons_of_mem _ ?_
    rcases List.mem_cons.mp h with rfl | hrest
    · exact List.mem_append_left _ hx
    · exact List.mem_append_right _ (ih hrest hx)

/-- The children of a block inside a list are inside it as well. -/
theorem mem_preorderIn_of_mem_children {block child : Block} {blocks : List Block} (h : block ∈ preorderIn blocks)
    (hchild : child ∈ block.children) : child ∈ preorderIn blocks := by
  induction blocks using children_induction with
  | nil => cases h
  | cons head rest ihChildren ihRest =>
    rw [preorderIn, preorder_eq_cons, List.cons_append] at h ⊢
    rcases List.mem_cons.mp h with rfl | h
    · exact List.mem_cons_of_mem _ (List.mem_append_left _ (mem_preorderIn hchild))
    · rcases List.mem_append.mp h with h | h
      · exact List.mem_cons_of_mem _ (List.mem_append_left _ (ihChildren h))
      · exact List.mem_cons_of_mem _ (List.mem_append_right _ (ihRest h))

/-! ## Walks -/

/-- The ids are those of the blocks in their order. -/
theorem idsIn_eq_map_preorderIn (blocks : List Block) : idsIn blocks = (preorderIn blocks).map Block.id := by
  induction blocks using children_induction with
  | nil => rfl
  | cons block rest hchildren hrest =>
    rw [idsIn_cons, preorderIn, preorder_eq_cons, List.map_append, List.map_cons, hchildren, hrest,
      List.cons_append]

/-- Everything inside a block is nested, however deep. -/
theorem nodesIn_true_eq_map_preorderIn (blocks : List Block) :
    nodesIn true blocks = (preorderIn blocks).map (node true) := by
  induction blocks using children_induction with
  | nil => rfl
  | cons block rest hchildren hrest =>
    rw [nodesIn_cons, preorderIn, preorder_eq_cons, List.map_append, List.map_cons, hchildren, hrest,
      List.cons_append]

/-- The problems of a block are its own and those inside it. -/
theorem conditionProblems_eq (block : Block) :
    block.conditionProblems = block.ownProblem ++ conditionProblemsIn block.children := by
  cases block with
  | container => rfl
  | statement => exact (List.append_nil _).symm

/-- The problems of blocks are the own ones of all blocks in them, in their order. -/
theorem conditionProblemsIn_eq_flatMap_preorderIn (blocks : List Block) :
    conditionProblemsIn blocks = (preorderIn blocks).flatMap ownProblem := by
  induction blocks using children_induction with
  | nil => rfl
  | cons block rest hchildren hrest =>
    rw [conditionProblemsIn, conditionProblems_eq, preorderIn, preorder_eq_cons, List.flatMap_append,
      List.flatMap_cons, hchildren, hrest]

/-- A lookup finds the first block with the id. -/
theorem findIn?_eq_find?_preorderIn (id : String) (blocks : List Block) :
    findIn? id blocks = (preorderIn blocks).find? (·.id = id) := by
  induction blocks using children_induction with
  | nil => rfl
  | cons block rest hchildren hrest =>
    have hhere : block.find? id = if block.id = id then some block else findIn? id block.children := by
      cases block <;> rfl
    rw [findIn?, preorderIn, preorder_eq_cons, List.find?_append, List.find?_cons, hrest, hhere, hchildren]
    by_cases hid : block.id = id <;> simp [hid]

end Block

namespace Program

/-- All blocks of a program, in the order of the document. -/
def preorder (p : Program) : List Block :=
  Block.preorderIn p.blocks

/-- With distinct ids every block is found by its id. -/
theorem find?_eq_some_of_mem {p : Program} (h : p.ids.Nodup) {block : Block} (hblock : block ∈ p.preorder) :
    p.find? block.id = some block := by
  rw [ids, Block.idsIn_eq_map_preorderIn] at h
  rw [find?, Block.findIn?_eq_find?_preorderIn]
  cases hfind : (Block.preorderIn p.blocks).find? (·.id = block.id) with
  | none => exact absurd (List.find?_eq_none.mp hfind block hblock) (by simp)
  | some found =>
    -- the block that is found has the same id, so it is the same block
    have hid : found.id = block.id := by simpa using List.find?_some hfind
    rw [List.inj_on_of_nodup_map h (List.mem_of_find?_eq_some hfind) hblock hid]

end Program

end Signalbox
