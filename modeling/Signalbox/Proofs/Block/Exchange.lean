import Signalbox.Proofs.Block.Gap

/-!
# One block in place of another

An edit in the middle of a program puts one block in the place of another and leaves everything around it
as it is. `Block.Exchange` says so of two lists of blocks.

Main results:

* `Block.Exchange.nodesIn`: the nodes of the two lists differ only by those of the two blocks.
* `Block.editFirstIn?_eq_some` / `Block.editParentIn?_eq_some`: what the edits in place change is the block
  that the lookup of the same name finds, and nothing else.
-/

namespace Signalbox.Block

/-- In a list of blocks, or anywhere inside them, `new` stands in the place of `old`. The Boolean tells whether
that place is inside another block. -/
inductive Exchange (old new : Block) : Bool → List Block → List Block → Prop where
  | here (rest : List Block) : Exchange old new false (old :: rest) (new :: rest)
  | later (block : Block) {nested : Bool} {rest rest' : List Block} :
    Exchange old new nested rest rest' → Exchange old new nested (block :: rest) (block :: rest')
  | inside (id : String) (position : Option Position) (kind : ContainerKind) (rest : List Block)
    {nested : Bool} {children children' : List Block} :
    Exchange old new nested children children' →
      Exchange old new true (.container id position kind children :: rest)
        (.container id position kind children' :: rest)

namespace Exchange

variable {old new : Block} {nested : Bool} {blocks blocks' : List Block}

/-- Both lists hold a block. -/
theorem isEmpty_eq_false (h : Exchange old new nested blocks blocks') :
    blocks.isEmpty = false ∧ blocks'.isEmpty = false := by
  cases h <;> exact ⟨rfl, rfl⟩

/-- A place that is not inside another block is one in the list itself. -/
theorem mem_of_not_nested (h : Exchange old new false blocks blocks') : old ∈ blocks := by
  generalize hn : false = nested at h
  induction h with
  | here rest => exact List.mem_cons_self
  | later block _ ih => exact List.mem_cons_of_mem _ (ih hn)
  | inside => exact absurd hn (by decide)

/-- The place is the same the other way round. -/
theorem symm (h : Exchange old new nested blocks blocks') : Exchange new old nested blocks' blocks := by
  induction h with
  | here rest => exact .here rest
  | later block _ ih => exact .later block ih
  | inside id position kind rest _ ih => exact .inside id position kind rest ih

/-- The nodes around the place stay as they are. -/
theorem nodesIn (h : Exchange old new nested blocks blocks') (outer : Bool) :
    ∃ before after,
      nodesIn outer blocks = before ++ old.nodes (outer || nested) ++ after ∧
      Block.nodesIn outer blocks' = before ++ new.nodes (outer || nested) ++ after := by
  induction h generalizing outer with
  | here rest =>
    refine ⟨[], Block.nodesIn outer rest, ?_, ?_⟩ <;>
      rw [Block.nodesIn, Bool.or_false, List.nil_append]
  | later block _ ih =>
    obtain ⟨before, after, hold, hnew⟩ := ih outer
    refine ⟨block.nodes outer ++ before, after, ?_, ?_⟩
    · rw [Block.nodesIn, hold, List.append_assoc, List.append_assoc, List.append_assoc]
    · rw [Block.nodesIn, hnew, List.append_assoc, List.append_assoc, List.append_assoc]
  | inside id position kind rest hchildren ih =>
    -- what is inside the container stands inside another block, whatever the container does
    obtain ⟨before, after, hold, hnew⟩ := ih true
    obtain ⟨hne, hne'⟩ := hchildren.isEmpty_eq_false
    refine ⟨⟨outer, id, position, .container kind, false⟩ :: before,
      after ++ Block.nodesIn outer rest, ?_, ?_⟩
    · rw [Block.nodesIn, nodes, hold, Bool.true_or, Bool.or_true]
      simp [node, children, hne, Block.id, Block.position, own]
    · rw [Block.nodesIn, nodes, hnew, Bool.true_or, Bool.or_true]
      simp [node, children, hne', Block.id, Block.position, own]

end Exchange

/-! ## Edits in place -/

/-- Two lists that differ in one place. -/
theorem Gap.exchange_fill (gap : Gap) (old new : Block) :
    ∃ nested, Exchange old new nested (gap.fill old) (gap.fill new) := by
  induction gap with
  | here rest => exact ⟨false, .here rest⟩
  | later front gap ih =>
    obtain ⟨nested, hexchange⟩ := ih
    exact ⟨nested, .later front hexchange⟩
  | inside id position kind gap rest ih =>
    obtain ⟨nested, hexchange⟩ := ih
    exact ⟨true, .inside id position kind rest hexchange⟩

namespace Meets

variable {wanted : Block → Bool} {blocks blocks' : List Block} {found? : Option Block}
  {edited? : (α : Type) → (Block → α × Block) → Option (α × List Block)} {α : Type} {edit : Block → α × Block}
  {answer : α}

/-- An edit that changes nothing goes with a lookup that finds nothing. -/
theorem eq_none (h : Meets wanted blocks found? edited?) (hedited : edited? α edit = none) : found? = none := by
  cases hfound : found? with
  | none => rfl
  | some block =>
    obtain ⟨gap, ⟨-, hgap⟩, -⟩ := h.somewhere block hfound
    exact absurd (hedited.symm.trans (hgap α edit)) (Option.some_ne_none _).symm

/-- An edit changes the block that the lookup finds, and nothing else. -/
theorem eq_some (h : Meets wanted blocks found? edited?) (hedited : edited? α edit = some (answer, blocks')) :
    ∃ block nested, found? = some block ∧ wanted block = true ∧ (edit block).1 = answer ∧
      Exchange block (edit block).2 nested blocks blocks' := by
  cases hfound : found? with
  | none => exact absurd (hedited.symm.trans (h.nowhere hfound α edit)) (Option.some_ne_none _)
  | some block =>
    obtain ⟨gap, ⟨hfirst, hgap⟩, -⟩ := h.somewhere block hfound
    obtain ⟨rfl, rfl⟩ := Prod.mk.inj (Option.some.inj (hedited.symm.trans (hgap α edit)))
    obtain ⟨nested, hexchange⟩ := gap.exchange_fill block (edit block).2
    rw [hfirst.fill_eq] at hexchange
    exact ⟨block, nested, rfl, hfirst.wanted_eq, rfl, hexchange⟩

end Meets

variable {α : Type} {id : String} {edit : Block → α × Block} {blocks blocks' : List Block} {answer : α}

/-- A block with a child that is looked for has children. -/
theorem children_ne_nil_of_hasChild (h : hasChild id blocks = true) : blocks ≠ [] := by
  rintro rfl
  exact Bool.false_ne_true h

theorem editFirstIn?_eq_none (h : editFirstIn? id edit blocks = none) : findIn? id blocks = none :=
  (meets_first id blocks).eq_none h

/-- The edit of the first block with an id changes the block that `findIn?` finds, and nothing else. -/
theorem editFirstIn?_eq_some (h : editFirstIn? id edit blocks = some (answer, blocks')) :
    ∃ block nested, findIn? id blocks = some block ∧ block.id = id ∧ (edit block).1 = answer ∧
      Exchange block (edit block).2 nested blocks blocks' := by
  obtain ⟨block, nested, hfind, hwanted, hrest⟩ := (meets_first id blocks).eq_some h
  exact ⟨block, nested, hfind, of_decide_eq_true hwanted, hrest⟩

theorem editParentIn?_eq_none (h : editParentIn? id edit blocks = none) : parentIn? id blocks = none :=
  (meets_parent id blocks).eq_none h

/-- The edit of the block that has a child with an id changes the block that `parentIn?` finds, and nothing
else. -/
theorem editParentIn?_eq_some (h : editParentIn? id edit blocks = some (answer, blocks')) :
    ∃ parent nested, parentIn? id blocks = some parent ∧ hasChild id parent.children = true ∧
      (edit parent).1 = answer ∧ Exchange parent (edit parent).2 nested blocks blocks' :=
  (meets_parent id blocks).eq_some h

end Signalbox.Block
