import Signalbox.Proofs.Block.Gap

/-!
# Lookups by id

A program is searched for a block with an id and for the parent of this block, to look at what is found or to
change it in place. Ids may be in use more than once: then the first block in the order of the document counts.

Main results:

* `Program.parent?_eq_none_iff` and `Program.parent?_eq_some_iff`: the parent, when ids are distinct.
* `Program.lookups_agree`: what each of the four searches comes to.
-/

namespace Signalbox.Program

variable {p : Program} {id : String}

/-- The ids of a program, in the order its blocks are met in. -/
theorem ids_eq_map_preorder (p : Program) : p.ids = p.preorder.map Block.id :=
  Block.idsIn_eq_map_preorderIn p.blocks

/-- The block that is found stands where its id stands first among the ids. -/
theorem find?_eq_getElem?_idxOf (p : Program) (id : String) : p.find? id = p.preorder[p.ids.idxOf id]? := by
  have hindex : p.ids.idxOf id = p.preorder.findIdx (·.id = id) := by
    rw [ids_eq_map_preorder, List.idxOf, List.findIdx_map]
    congr 1
  rw [hindex, ← List.find?_eq_getElem?_findIdx]
  exact Block.findIn?_eq_find?_preorderIn id p.blocks

/-- What is found as a parent has a child with the id. -/
theorem exists_child_of_parent? {parent : Block} (h : p.parent? id = some parent) :
    parent ∈ p.preorder ∧ ∃ child ∈ parent.children, child.id = id := by
  obtain ⟨hmem, hhas⟩ := Block.of_parentIn?_eq_some h
  exact ⟨hmem, (Block.hasChild_iff id parent.children).mp hhas⟩

/-- With distinct ids only top-level blocks have no parent. -/
theorem parent?_eq_none_iff (hids : p.ids.Nodup) : p.parent? id = none ↔ p.isTopLevel id = true ∨ id ∉ p.ids := by
  constructor
  · intro hnone
    by_contra hinside
    rw [not_or, not_not, Bool.not_eq_true] at hinside
    obtain ⟨htop, hmem⟩ := hinside
    obtain ⟨parent, hparent⟩ := Block.exists_parentIn?_eq_some hmem htop
    exact absurd (hnone.symm.trans hparent) (Option.some_ne_none parent).symm
  · intro houtside
    by_contra hne
    obtain ⟨parent, hparent⟩ := Option.ne_none_iff_exists'.mp hne
    obtain ⟨hmem, child, hchild, hid⟩ := exists_child_of_parent? hparent
    rcases houtside with htop | habsent
    · -- distinct ids keep the children apart from the top-level blocks
      have hhas : Block.hasChild id parent.children = true := (Block.hasChild_iff id _).mpr ⟨child, hchild, hid⟩
      exact absurd (htop.symm.trans (Block.hasChild_eq_false_of_mem hids hmem hhas)) (by decide)
    · refine habsent ((Block.mem_idsIn_iff id p.blocks).mpr ⟨child, ?_, hid⟩)
      exact Block.mem_preorderIn_of_mem_children hmem hchild

/-- With distinct ids the parent is the block that has the block with the id among its children. -/
theorem parent?_eq_some_iff (hids : p.ids.Nodup) (parent : Block) :
    p.parent? id = some parent ↔
      parent ∈ p.preorder ∧ ∃ block ∈ parent.children, p.find? id = some block := by
  constructor
  · intro hparent
    obtain ⟨hmem, child, hchild, rfl⟩ := exists_child_of_parent? hparent
    exact ⟨hmem, child, hchild, find?_eq_some_of_mem hids (Block.mem_preorderIn_of_mem_children hmem hchild)⟩
  · rintro ⟨hmem, block, hblock, hfind⟩
    rw [find?, Block.findIn?_eq_find?_preorderIn] at hfind
    have hid : block.id = id := by simpa using List.find?_some hfind
    exact Block.parentIn?_eq_some_of_mem hids hmem ((Block.hasChild_iff id _).mpr ⟨block, hblock, hid⟩)

/-- The four searches of a program agree, whether ids are distinct or not. A block is found exactly if its id is
in use, and it is the first one that has the id; a parent that is found has a child with the id. The edits in place
go where the lookups go: each of them changes the block at one place, which is that of the block found, and leaves
everything around this place as it is. With distinct ids only top-level blocks have no parent, and the parent of a
block is the one that has it among its children. -/
theorem lookups_agree (p : Program) (id : String) :
    ((p.find? id).isSome = true ↔ id ∈ p.ids) ∧
    (p.ids = p.preorder.map Block.id ∧ p.find? id = p.preorder[p.ids.idxOf id]?) ∧
    Block.Meets (·.id = id) p.blocks (p.find? id) (fun _ edit => Block.editFirstIn? id edit p.blocks) ∧
    Block.Meets (Block.hasChild id ·.children) p.blocks (p.parent? id)
      (fun _ edit => Block.editParentIn? id edit p.blocks) ∧
    (∀ parent, p.parent? id = some parent → ∃ child ∈ parent.children, child.id = id) ∧
    (p.ids.Nodup →
      (p.parent? id = none ↔ p.isTopLevel id = true ∨ id ∉ p.ids) ∧
      ∀ parent, p.parent? id = some parent ↔
        parent ∈ p.preorder ∧ ∃ block ∈ parent.children, p.find? id = some block) := by
  refine ⟨Block.findIn?_isSome_iff id p.blocks, ⟨p.ids_eq_map_preorder, p.find?_eq_getElem?_idxOf id⟩,
    Block.meets_first id p.blocks, Block.meets_parent id p.blocks, ?_, ?_⟩
  · exact fun parent hparent => (exists_child_of_parent? hparent).2
  · exact fun hids => ⟨parent?_eq_none_iff hids, parent?_eq_some_iff hids⟩

/-- A sleep, the loop around it, and the once block around both. -/
def shortSleep : Block := .statement "b" none (.sleep (.number (.int 5)))

def sleepLoop : Block := .container "r" none (.loop 2) [shortSleep]

def sleepInLoop : Program :=
  ⟨[.container "setup" none .once [.statement "a" none (.log (.text "a")), sleepLoop]]⟩

/-- A sleep in a loop, which every lookup and both edits find at the same place. -/
theorem lookups_agree_sleepInLoop :
    sleepInLoop.ids.Nodup ∧ sleepInLoop.find? "b" = some shortSleep ∧ sleepInLoop.parent? "b" = some sleepLoop ∧
    (∃! gap, Block.IsFirst (·.id = "b") sleepInLoop.blocks shortSleep gap ∧
      ∀ (α : Type) (edit : Block → α × Block), Block.editFirstIn? "b" edit sleepInLoop.blocks =
        some ((edit shortSleep).1, gap.fill (edit shortSleep).2)) ∧
    (∃ child ∈ sleepLoop.children, child.id = "b") ∧
    (sleepInLoop.isTopLevel "b" = false ∧ "b" ∈ sleepInLoop.ids) ∧
    ∃ block ∈ sleepLoop.children, sleepInLoop.find? "b" = some block := by
  have hids : sleepInLoop.ids.Nodup := by decide
  have hfind : sleepInLoop.find? "b" = some shortSleep := rfl
  have hparent : sleepInLoop.parent? "b" = some sleepLoop := rfl
  obtain ⟨-, -, hfirst, -, hchild, hdistinct⟩ := lookups_agree sleepInLoop "b"
  obtain ⟨hnone, hsome⟩ := hdistinct hids
  -- the block has a parent, so it is inside the program and not at its top
  have hinside : ¬ (sleepInLoop.isTopLevel "b" = true ∨ "b" ∉ sleepInLoop.ids) :=
    fun houtside => absurd (hnone.mpr houtside) (by rw [hparent]; exact Option.some_ne_none sleepLoop)
  rw [not_or, Bool.not_eq_true, not_not] at hinside
  exact ⟨hids, hfind, hparent, hfirst.somewhere shortSleep hfind, hchild sleepLoop hparent, hinside,
    ((hsome sleepLoop).mp hparent).2⟩

end Signalbox.Program
