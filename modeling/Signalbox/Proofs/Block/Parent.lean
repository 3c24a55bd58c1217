import Mathlib.Algebra.Order.Group.Multiset
import Mathlib.Data.List.Pairwise
import Mathlib.Tactic.Abel
import Signalbox.Proofs.Block.Preorder

/-!
# Parents

The parent of a block is the block that has it among its children. With distinct ids there is one for every
block inside another one, and no second one.

Main results:

* `Block.idsIn_perm`: every id is that of a block of the list, or of a child of some block inside the list.
* `Block.exists_parentIn?_eq_some`: a block inside another one has a parent.
* `Block.parentIn?_eq_some_of_mem`: with distinct ids a block that has a child is the parent of this child.
-/

namespace Signalbox

namespace Block

variable {id : String} {blocks : List Block} {block parent : Block}

/-- The ids of the children of a block. -/
def childIds (block : Block) : List String :=
  block.children.map Block.id

theorem hasChild_iff (id : String) (blocks : List Block) :
    hasChild id blocks = true ↔ ∃ child ∈ blocks, child.id = id := by
  simp [hasChild]

theorem hasChild_children_iff (id : String) (block : Block) :
    hasChild id block.children = true ↔ id ∈ block.childIds := by
  rw [hasChild_iff, childIds, List.mem_map]

theorem mem_idsIn_iff (id : String) (blocks : List Block) :
    id ∈ idsIn blocks ↔ ∃ block ∈ preorderIn blocks, block.id = id := by
  rw [idsIn_eq_map_preorderIn, List.mem_map]

theorem preorderIn_append (front back : List Block) :
    preorderIn (front ++ back) = preorderIn front ++ preorderIn back := by
  induction front with
  | nil => rfl
  | cons block rest ih => rw [List.cons_append, preorderIn, preorderIn, ih, List.append_assoc]

theorem idsIn_append (front back : List Block) : idsIn (front ++ back) = idsIn front ++ idsIn back := by
  simp only [idsIn_eq_map_preorderIn, preorderIn_append, List.map_append]

/-- A block is found exactly if its id is there. -/
theorem findIn?_isSome_iff (id : String) (blocks : List Block) :
    (findIn? id blocks).isSome = true ↔ id ∈ idsIn blocks := by
  rw [findIn?_eq_find?_preorderIn, List.find?_isSome, mem_idsIn_iff]
  simp

/-- The ids in a list of blocks are those of the list itself and those of the children of every block. -/
theorem idsIn_perm (blocks : List Block) :
    (idsIn blocks).Perm (blocks.map Block.id ++ (preorderIn blocks).flatMap childIds) := by
  induction blocks using children_induction with
  | nil => exact List.Perm.refl []
  | cons block rest hchildren hrest =>
    rw [← Multiset.coe_eq_coe] at hchildren hrest ⊢
    rw [idsIn_cons, preorderIn, preorder_eq_cons, List.cons_append, List.flatMap_cons, List.flatMap_append,
      List.map_cons]
    simp only [← Multiset.coe_add, ← Multiset.cons_coe, ← Multiset.singleton_add] at hchildren hrest ⊢
    rw [hchildren, hrest, childIds]
    abel

/-! ## A parent -/

theorem parent?_eq (id : String) (block : Block) :
    block.parent? id = if hasChild id block.children then some block else parentIn? id block.children := by
  cases block <;> rfl

/-- What is found has a child with the id. -/
theorem of_parentIn?_eq_some (h : parentIn? id blocks = some parent) :
    parent ∈ preorderIn blocks ∧ hasChild id parent.children = true := by
  induction blocks using children_induction with
  | nil => cases h
  | cons block rest hchildren hrest =>
    rw [parentIn?, parent?_eq] at h
    rw [preorderIn, preorder_eq_cons]
    split_ifs at h with hid hhas
    · obtain rfl := Option.some.inj h
      exact ⟨List.mem_cons_self, hhas⟩
    · rcases Option.or_eq_some_iff.mp h with h | ⟨-, h⟩
      · obtain ⟨hmem, hparent⟩ := hchildren h
        exact ⟨List.mem_cons_of_mem _ (List.mem_append_left _ hmem), hparent⟩
      · obtain ⟨hmem, hparent⟩ := hrest h
        exact ⟨List.mem_cons_of_mem _ (List.mem_append_right _ hmem), hparent⟩

/-- A block inside another one has a parent. -/
theorem exists_parentIn?_eq_some (hmem : id ∈ idsIn blocks) (htop : hasChild id blocks = false) :
    ∃ parent, parentIn? id blocks = some parent := by
  induction blocks using children_induction with
  | nil => cases hmem
  | cons block rest hchildren hrest =>
    have hid : block.id ≠ id := by
      intro hid
      simp [hasChild, hid] at htop
    -- the id is not at the top of the rest either
    have htopRest : hasChild id rest = false := by
      simpa [hasChild, hid] using htop
    rw [parentIn?, if_neg hid, parent?_eq]
    split_ifs with hhas
    · exact ⟨block, rfl⟩
    · rw [idsIn_cons, List.mem_cons, List.mem_append] at hmem
      rcases hmem with hmem | hmem | hmem
      · exact absurd hmem.symm hid
      · obtain ⟨parent, hparent⟩ := hchildren hmem (Bool.eq_false_iff.mpr hhas)
        exact ⟨parent, by rw [hparent, Option.some_or]⟩
      · -- the parent is inside this block or behind it
        obtain ⟨parent, hparent⟩ := hrest hmem htopRest
        cases hinside : parentIn? id block.children with
        | none => exact ⟨parent, by rw [hparent, Option.none_or]⟩
        | some other => exact ⟨other, Option.some_or⟩

/-! ## The parent -/

/-- With distinct ids no two children of a block share one. -/
theorem nodup_childIds (hids : (idsIn blocks).Nodup) (hparent : parent ∈ preorderIn blocks) :
    parent.childIds.Nodup := by
  have hinside := (List.nodup_append'.mp ((idsIn_perm blocks).nodup_iff.mp hids)).2.1
  exact (List.nodup_flatMap.mp hinside).1 parent hparent

/-- With distinct ids a child of a block is not in the list itself. -/
theorem hasChild_eq_false_of_mem (hids : (idsIn blocks).Nodup) (hparent : parent ∈ preorderIn blocks)
    (hhas : hasChild id parent.children = true) : hasChild id blocks = false := by
  obtain ⟨-, -, hdisjoint⟩ := List.nodup_append'.mp ((idsIn_perm blocks).nodup_iff.mp hids)
  rw [hasChild_children_iff] at hhas
  rw [Bool.eq_false_iff, Ne, hasChild_iff, ← List.mem_map]
  exact fun htop => hdisjoint htop (List.mem_flatMap.mpr ⟨parent, hparent, hhas⟩)

/-- With distinct ids the block that has a child is its parent. -/
theorem parentIn?_eq_some_of_mem (hids : (idsIn blocks).Nodup) (hparent : parent ∈ preorderIn blocks)
    (hhas : hasChild id parent.children = true) : parentIn? id blocks = some parent := by
  have htop := hasChild_eq_false_of_mem hids hparent hhas
  rw [hasChild_children_iff] at hhas
  have hmem : id ∈ idsIn blocks :=
    (idsIn_perm blocks).mem_iff.mpr (List.mem_append_right _ (List.mem_flatMap.mpr ⟨parent, hparent, hhas⟩))
  obtain ⟨found, hfound⟩ := exists_parentIn?_eq_some hmem htop
  obtain ⟨hfoundMem, hfoundHas⟩ := of_parentIn?_eq_some hfound
  rw [hasChild_children_iff] at hfoundHas
  by_cases hsame : found = parent
  · rw [hfound, hsame]
  · -- every id is listed once, among the children of one block
    have hinside := (List.nodup_append'.mp ((idsIn_perm blocks).nodup_iff.mp hids)).2.1
    have hsymm : Std.Symm (Function.onFun List.Disjoint childIds) := ⟨fun _ _ h => h.symm⟩
    have hapart : List.Disjoint found.childIds parent.childIds :=
      (List.nodup_flatMap.mp hinside).2.forall hfoundMem hparent hsame
    exact absurd hhas (hapart hfoundHas)

end Block

/-- A program contains the ids that it has. -/
theorem Program.contains_iff (p : Program) (id : String) : p.contains id = true ↔ id ∈ p.ids :=
  Block.findIn?_isSome_iff id p.blocks

end Signalbox
