import Mathlib.Data.List.TakeWhile
import Signalbox.Proofs.Editor.Gesture

/-!
# Detaching from any tree

A list is detached by two searches that go through the tree in different ways. The search for the parent looks at all
children of a block before it goes into any of them, and it gives up at a block that has the id itself; the place of
the cut is then looked for among the children of this parent alone. On a tree where ids are shared neither search need
come to the block that a lookup finds first. Here it is said for every tree what they come to.

Main results:

* `Program.exists_cuts_of_detach`: what is detached is the end of the children of one block, and all else stays.
* `Program.detach_cases`: where the id stands decides what a detachment comes to.
* `Program.detach_eq_error_iff_and_cuts`: when a detachment fails, and what it takes away when it does not.
-/

namespace Signalbox

namespace Block

variable {id : String} {block other : Block}

/-- No child in front of the cut has the id. -/
theorem ne_id_of_mem_childrenBefore (h : other ∈ block.childrenBefore id) : other.id ≠ id := by
  have hpasses := List.mem_takeWhile_imp h
  exact of_decide_eq_true hpasses

end Block

namespace Program

variable {p rest : Program} {id : String} {parent : Block} {front list : List Block}

/-- In going from one program to another, a block `parent` keeps the children `front` and loses the others, `list`. The
cut is in front of its first child that has the id, and nothing else changes. -/
structure Cuts (p : Program) (id : String) (parent : Block) (front list : List Block) (rest : Program) : Prop where
  children_eq : parent.children = front ++ list
  first : list.head?.map Block.id = some id
  ne_id_of_mem : ∀ other ∈ front, other.id ≠ id
  exchange : ∃ nested, Block.Exchange parent (parent.withChildren front) nested p.blocks rest.blocks

/-- Appending the list to the children of the block that lost it restores the program. -/
theorem Cuts.restores (h : p.Cuts id parent front list rest) :
    ∃ nested, Block.Exchange (parent.withChildren front)
      ((parent.withChildren front).withChildren (front ++ list)) nested rest.blocks p.blocks := by
  obtain ⟨nested, hexchange⟩ := h.exchange
  -- with the list behind the children that were left, the parent is what it was
  have hparent : (parent.withChildren front).withChildren (front ++ list) = parent := by
    rw [← h.children_eq, Block.withChildren_withChildren_children]
  refine ⟨nested, ?_⟩
  rw [hparent]
  exact hexchange.symm

/-- A list that was detached is the end of the children of one block, from the first with the id on. -/
theorem exists_cuts_of_detach (h : p.detach id = .ok (list, rest)) :
    ∃ parent front, p.Cuts id parent front list rest := by
  obtain ⟨parent, nested, hhas, rfl, hexchange⟩ := detach_eq_ok h
  refine ⟨parent, parent.childrenBefore id, ?_, ?_, ?_, nested, hexchange⟩
  · exact (Block.childrenBefore_append_childrenFrom id parent).symm
  · obtain ⟨first, back, hfrom, hid⟩ := Block.exists_childrenFrom_eq_cons hhas
    rw [hfrom, List.head?_cons, Option.map_some, hid]
  · intro other hother
    exact Block.ne_id_of_mem_childrenBefore hother

/-! ## The three outcomes -/

theorem isTopLevel_iff : p.isTopLevel id = true ↔ ∃ block ∈ p.blocks, block.id = id :=
  Block.hasChild_iff id p.blocks

theorem contains_iff_preorder : p.contains id = true ↔ ∃ block ∈ p.preorder, block.id = id := by
  rw [contains_iff, ids, Block.mem_idsIn_iff]
  rfl

/-- Nothing is detached when no block has the id, since the search for a parent comes to none. -/
theorem detach_of_not_contains (h : p.contains id = false) : p.detach id = .error (.notFound id) := by
  have habsent : ∀ block ∈ p.preorder, block.id ≠ id := by
    intro block hblock hid
    have hcontains := contains_iff_preorder.mpr ⟨block, hblock, hid⟩
    rw [h] at hcontains
    exact Bool.false_ne_true hcontains
  have htop : ¬ p.isTopLevel id = true := by
    intro htop
    obtain ⟨block, hblock, hid⟩ := isTopLevel_iff.mp htop
    exact habsent block (Block.mem_preorderIn hblock) hid
  rw [detach, if_neg htop]
  cases hedit : Block.editParentIn? id (Block.cutChildren id) p.blocks with
  | none => rfl
  | some found =>
    -- a parent would have a child with the id
    obtain ⟨parent, -, hparent, hhas, -⟩ := Block.editParentIn?_eq_some hedit
    obtain ⟨child, hchild, hid⟩ := (Block.hasChild_iff _ _).mp hhas
    have hmem := Block.mem_preorderIn_of_mem_children (Block.of_parentIn?_eq_some hparent).1 hchild
    exact absurd hid (habsent child hmem)

/-- Where the id stands decides what a detachment comes to: at the top level, nowhere, or inside a block only. -/
theorem detach_cases (p : Program) (id : String) :
    (p.isTopLevel id = true ∧ p.contains id = true ∧ p.detach id = .error (.topLevel id)) ∨
      (p.isTopLevel id = false ∧ p.contains id = false ∧ p.detach id = .error (.notFound id)) ∨
      (p.isTopLevel id = false ∧ p.contains id = true ∧ ∃ list rest, p.detach id = .ok (list, rest)) := by
  cases htop : p.isTopLevel id with
  | true =>
    obtain ⟨block, hblock, hid⟩ := isTopLevel_iff.mp htop
    have hcontains := contains_iff_preorder.mpr ⟨block, Block.mem_preorderIn hblock, hid⟩
    exact Or.inl ⟨rfl, hcontains, by rw [detach, if_pos htop]⟩
  | false =>
    cases hcontains : p.contains id with
    | false => exact Or.inr (Or.inl ⟨rfl, rfl, detach_of_not_contains hcontains⟩)
    | true => exact Or.inr (Or.inr ⟨rfl, rfl, Diagram.exists_detach_eq_ok hcontains htop⟩)

/-- On every tree, ids shared or not: nothing is detached exactly when a block of the top level has the id, or when no
block has it. In all other cases one block loses the end of its children, from the first child with the id on, nothing
else changes, and appending the list to the children of this block restores the program. -/
theorem detach_eq_error_iff_and_cuts (p : Program) (id : String) :
    (p.detach id = .error (.topLevel id) ↔ ∃ block ∈ p.blocks, block.id = id) ∧
      (p.detach id = .error (.notFound id) ↔ ¬ ∃ block ∈ p.preorder, block.id = id) ∧
      ((¬ ∃ block ∈ p.blocks, block.id = id) → (∃ block ∈ p.preorder, block.id = id) →
        ∃ list rest parent front, p.detach id = .ok (list, rest) ∧ p.Cuts id parent front list rest ∧
          ∃ nested, Block.Exchange (parent.withChildren front)
            ((parent.withChildren front).withChildren (front ++ list)) nested rest.blocks p.blocks) := by
  rw [← isTopLevel_iff, ← contains_iff_preorder, Bool.not_eq_true, Bool.not_eq_true]
  rcases p.detach_cases id with ⟨htop, hcontains, heq⟩ | ⟨htop, hcontains, heq⟩ | ⟨htop, hcontains, list, rest, heq⟩
  · simp [htop, hcontains, heq]
  · simp [htop, hcontains, heq]
  · obtain ⟨parent, front, hcuts⟩ := exists_cuts_of_detach heq
    refine ⟨by simp [htop, heq], by simp [hcontains, heq], fun _ _ => ?_⟩
    exact ⟨list, rest, parent, front, heq, hcuts, hcuts.restores⟩

/-- A once block whose last children are a loop with a log inside it, and two logs. The first of them has the id of the
one inside the loop. -/
def sharedLog : Program :=
  ⟨[.container "o" none .once [.statement "a" none (.log (.text "a")),
    .container "r" none (.loop 2) [.statement "x" none (.log (.text "inside"))],
    .statement "x" none (.log (.text "behind")), .statement "y" none (.log (.text "y"))]]⟩

/-- A lookup comes to the log inside the loop, and the list that is detached starts with the one behind it. -/
theorem detach_eq_error_iff_and_cuts_sharedLog :
    (¬ ∃ block ∈ sharedLog.blocks, block.id = "x") ∧ (∃ block ∈ sharedLog.preorder, block.id = "x") ∧
      sharedLog.find? "x" = some (.statement "x" none (.log (.text "inside"))) ∧
      ∃ list rest parent front, sharedLog.detach "x" = .ok (list, rest) ∧
        sharedLog.Cuts "x" parent front list rest ∧
        list = [.statement "x" none (.log (.text "behind")), .statement "y" none (.log (.text "y"))] ∧
        rest.ids = ["o", "a", "r", "x"] := by
  have htop : ¬ ∃ block ∈ sharedLog.blocks, block.id = "x" := by
    rw [← isTopLevel_iff]
    decide
  have hmem : ∃ block ∈ sharedLog.preorder, block.id = "x" := contains_iff_preorder.mp (by decide)
  obtain ⟨-, -, hcuts⟩ := detach_eq_error_iff_and_cuts sharedLog "x"
  obtain ⟨list, rest, parent, front, heq, hcut, -⟩ := hcuts htop hmem
  refine ⟨htop, hmem, rfl, list, rest, parent, front, heq, hcut, ?_⟩
  obtain ⟨rfl, rfl⟩ := Prod.mk.inj (Except.ok.inj heq)
  exact ⟨rfl, rfl⟩

end Program

end Signalbox
