import Mathlib.Data.List.Nodup
import Signalbox.Program.Basic

/-!
# The nodes of a program

The rules of a program and the contents of a program speak of its blocks one by one: of the id, the
position and the own fields of a block, of whether it stands inside another block, and of whether it has
children. A `Node` is a block as far as this goes, and `Block.nodesIn` lists the nodes of a list of blocks and
of everything inside them, in the order of the document.

Main results:

* `Block.forest_induction` / `Block.children_induction`: induction over lists of blocks, with two cases for the
  block at the head or with one.
* `Block.idsIn_eq_map_nodesIn`: the ids of a list of blocks are those of its nodes.
-/

namespace Signalbox

/-- The type of a block with these own fields. -/
def OwnFields.type : OwnFields → BlockType
  | .container kind => kind.type
  | .statement kind => kind.type

theorem OwnFields.eq_dummy_of_type {own : OwnFields} (h : own.type = .dummy) : own = .container .dummy := by
  rcases own with kind | kind <;> cases kind <;> first | rfl | exact BlockType.noConfusion h

/-- A block by itself, without what is inside it. -/
structure Node where
  /-- The block stands inside another block. -/
  nested : Bool
  id : String
  position : Option Position
  own : OwnFields
  /-- The block has no children. -/
  isEmpty : Bool

namespace Block

/-! ## Induction -/

/-- Induction over lists of blocks. What is inside a container at the head of a list and what follows it
are two smaller lists. -/
@[elab_as_elim]
theorem forest_induction {P : List Block → Prop} (nil : P [])
    (statement : ∀ id position kind rest, P rest → P (.statement id position kind :: rest))
    (container : ∀ id position kind children rest, P children → P rest →
      P (.container id position kind children :: rest)) :
    ∀ blocks, P blocks := by
  intro blocks
  exact @Block.rec_1 (fun block => ∀ rest, P rest → P (block :: rest)) P
    (fun id position kind children hchildren rest hrest =>
      container id position kind children rest hchildren hrest)
    (fun id position kind rest hrest => statement id position kind rest hrest)
    nil (fun _ rest hblock hrest => hblock rest hrest) blocks

/-- Induction over lists of blocks in which a statement counts as a block without children. -/
@[elab_as_elim]
theorem children_induction {P : List Block → Prop} (nil : P [])
    (cons : ∀ block rest, P block.children → P rest → P (block :: rest)) :
    ∀ blocks, P blocks := by
  intro blocks
  induction blocks using forest_induction with
  | nil => exact nil
  | statement id position kind rest ih => exact cons _ rest nil ih
  | container id position kind children rest ihChildren ihRest => exact cons _ rest ihChildren ihRest

/-! ## Nodes -/

/-- A block by itself, inside another block or not. -/
def node (nested : Bool) (block : Block) : Node :=
  ⟨nested, block.id, block.position, block.own, block.children.isEmpty⟩

mutual

/-- The nodes of a block and of everything inside it, in the order of the document. -/
def nodes (nested : Bool) : Block → List Node
  | .container id position kind children =>
    (Block.container id position kind children).node nested :: nodesIn true children
  | .statement id position kind => [(Block.statement id position kind).node nested]

/-- The nodes of a list of blocks and of everything inside them, in the order of the document. -/
def nodesIn (nested : Bool) : List Block → List Node
  | [] => []
  | block :: rest => block.nodes nested ++ nodesIn nested rest

end

/-- A block's nodes are its own and those of its children. -/
theorem nodes_eq_cons (nested : Bool) (block : Block) :
    block.nodes nested = block.node nested :: nodesIn true block.children := by
  cases block with
  | container id position kind children => rw [nodes]; rfl
  | statement id position kind => rw [nodes, children, nodesIn]

theorem nodesIn_cons (nested : Bool) (block : Block) (rest : List Block) :
    nodesIn nested (block :: rest) =
      block.node nested :: (nodesIn true block.children ++ nodesIn nested rest) := by
  rw [nodesIn, nodes_eq_cons, List.cons_append]

theorem nodesIn_append (nested : Bool) (front back : List Block) :
    nodesIn nested (front ++ back) = nodesIn nested front ++ nodesIn nested back := by
  -- along the first list
  induction front with
  | nil => rw [nodesIn, List.nil_append, List.nil_append]
  | cons block front ih => rw [List.cons_append, nodesIn, nodesIn, ih, List.append_assoc]

/-- Each block of a list gives one of its nodes. -/
theorem node_mem_nodesIn {nested : Bool} {block : Block} {blocks : List Block} (h : block ∈ blocks) :
    block.node nested ∈ nodesIn nested blocks := by
  obtain ⟨front, back, rfl⟩ := List.append_of_mem h
  rw [nodesIn_append, nodesIn_cons]
  simp

/-- A block that stands in a list brings its children's nodes with it. -/
theorem nodesIn_children_subset {nested : Bool} {block : Block} {blocks : List Block}
    (h : block ∈ blocks) : nodesIn true block.children ⊆ nodesIn nested blocks := by
  obtain ⟨front, back, rfl⟩ := List.append_of_mem h
  intro n hn
  rw [nodesIn_append, nodesIn_cons]
  simp [hn]

@[simp] theorem type_own (block : Block) : block.own.type = block.type := by
  cases block <;> rfl

/-! ## Ids -/

/-- The ids are those of the nodes. -/
theorem idsIn_eq_map_nodesIn (nested : Bool) (blocks : List Block) :
    idsIn blocks = (nodesIn nested blocks).map Node.id := by
  induction blocks using forest_induction generalizing nested with
  | nil => rfl
  | statement id position kind rest ih =>
    rw [idsIn, ids, nodesIn_cons, ih nested]
    rfl
  | container id position kind children rest ihChildren ihRest =>
    rw [idsIn, ids, nodesIn_cons, ihChildren true, ihRest nested, List.map_cons, List.map_append]
    rfl

theorem idsIn_cons (block : Block) (rest : List Block) :
    idsIn (block :: rest) = block.id :: (idsIn block.children ++ idsIn rest) := by
  rw [idsIn_eq_map_nodesIn false, nodesIn_cons, List.map_cons, List.map_append,
    ← idsIn_eq_map_nodesIn, ← idsIn_eq_map_nodesIn]
  rfl

/-- The ids of the blocks of a list are among the ids of everything inside them, in the same order. -/
theorem map_id_sublist_idsIn (blocks : List Block) : (blocks.map Block.id).Sublist (idsIn blocks) := by
  induction blocks with
  | nil => exact List.Sublist.slnil
  | cons block rest ih =>
    rw [List.map_cons, idsIn_cons]
    exact (ih.trans (List.sublist_append_right ..)).cons_cons block.id

end Block

namespace Program

/-- The nodes of a program, in the order of the document. -/
def nodes (p : Program) : List Node :=
  Block.nodesIn false p.blocks

theorem ids_eq_map_nodes (p : Program) : p.ids = p.nodes.map Node.id :=
  Block.idsIn_eq_map_nodesIn false p.blocks

/-- Blocks of the same list with the same id are one block when ids are distinct. -/
theorem eq_of_id_eq {p : Program} (h : p.ids.Nodup) {a b : Block} (ha : a ∈ p.blocks)
    (hb : b ∈ p.blocks) (hid : a.id = b.id) : a = b := by
  have hnodup : (p.blocks.map Block.id).Nodup := (Block.map_id_sublist_idsIn p.blocks).nodup h
  exact List.inj_on_of_nodup_map hnodup ha hb hid

end Program

end Signalbox
