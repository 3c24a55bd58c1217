import Signalbox.Proofs.Block.Parent
import Signalbox.Proofs.Editor.Invariant
import Signalbox.Snap.Catalog

/-!
# Where a dropped list goes

A commit looks its target up before it takes the dummy out, and its parent again afterwards. When ids are
distinct and the target does not move along, both lookups come to the same block, and the commit puts the list
there: in front of the children of the target, or right behind it among the children of its parent. A block
that offers an anchor is always such a target.

Main results:

* `Diagram.commit_of_target`: a commit whose target does not move along is carried out, and the target and the
  dummy are the only blocks that it touches.
* `Diagram.Droppable.drops`: a list dropped on an anchor that a block offers goes to this anchor.
-/

namespace Signalbox

namespace Block

variable {old new block removed x : Block} {nested : Bool} {id : String} {blocks blocks' rest : List Block}

/-- The block that came in the place of another one is there. -/
theorem Exchange.mem_preorderIn (h : Exchange old new nested blocks blocks') : new ∈ preorderIn blocks' := by
  induction h with
  | here rest => exact Block.mem_preorderIn List.mem_cons_self
  | later block _ ih => exact List.mem_append_right _ ih
  | inside id position kind rest _ ih => exact List.mem_append_left _ (List.mem_cons_of_mem _ ih)

/-- A block of the list can be taken out by its id. -/
theorem exists_removeFrom?_eq_some (h : block ∈ blocks) : ∃ found, removeFrom? block.id blocks = some found := by
  induction blocks with
  | nil => cases h
  | cons head tail ih =>
    rw [removeFrom?]
    split_ifs with hid
    · exact ⟨_, rfl⟩
    · rcases List.mem_cons.mp h with rfl | htail
      · exact absurd rfl hid
      · obtain ⟨found, hfound⟩ := ih htail
        exact ⟨_, by rw [hfound, Option.map_some]⟩

/-- What neither is the removed block nor stands inside it is kept. -/
theorem mem_preorderIn_of_removeFrom? (h : removeFrom? id blocks = some (removed, rest))
    (hx : x ∈ preorderIn blocks) (hself : x ≠ removed) (hinside : x ∉ preorderIn removed.children) :
    x ∈ preorderIn rest := by
  obtain ⟨front, back, rfl, rfl, -⟩ := removeFrom?_eq_some h
  rw [preorderIn_append, preorderIn, preorder_eq_cons] at hx
  rw [preorderIn_append]
  simp only [List.mem_append, List.mem_cons, List.cons_append] at hx ⊢
  tauto

/-- The ids that are left when a block is taken out are among the old ones, in their order. -/
theorem idsIn_sublist_of_removeFrom? (h : removeFrom? id blocks = some (removed, rest)) :
    (idsIn rest).Sublist (idsIn blocks) := by
  obtain ⟨front, back, rfl, rfl, -⟩ := removeFrom?_eq_some h
  rw [idsIn_eq_map_preorderIn, idsIn_eq_map_preorderIn, preorderIn_append, preorderIn_append, preorderIn]
  exact ((List.Sublist.refl _).append (List.sublist_append_right _ _)).map Block.id

theorem id_insertChildren (index : Nat) (list : List Block) (block : Block) :
    (block.insertChildren index list).id = block.id := by
  cases block <;> rfl

/-- A child with the id has a place in the list. -/
theorem exists_indexIn?_eq_some (h : hasChild id blocks = true) : ∃ index, indexIn? id blocks = some index := by
  refine Option.isSome_iff_exists.mp ?_
  rw [indexIn?, List.findIdx?_isSome]
  exact h

/-- A list that is put behind a child. -/
theorem exists_insertChildren_eq {parent : Block} {index : Nat} (hcontainer : parent.isContainer = true)
    (hindex : indexIn? id parent.children = some index) (list : List Block) :
    ∃ front target back, (parent.insertChildren (index + 1) list).children = front ++ target :: (list ++ back) ∧
      front.length = index ∧ target.id = id := by
  obtain ⟨hlt, htarget, -⟩ := List.findIdx?_eq_some_iff_getElem.mp hindex
  refine ⟨parent.children.take index, parent.children[index], parent.children.drop (index + 1), ?_, ?_, ?_⟩
  · rw [insertChildren, children_withChildren hcontainer, List.take_succ_eq_append_getElem hlt]
    simp only [List.append_assoc, List.cons_append, List.nil_append]
  · rw [List.length_take]
    omega
  · simpa using htarget

end Block

/-- With distinct ids an id is that of one block. -/
theorem Program.eq_of_mem_preorder {p : Program} (h : p.ids.Nodup) {a b : Block} (ha : a ∈ p.preorder)
    (hb : b ∈ p.preorder) (hid : a.id = b.id) : a = b := by
  have hfind := find?_eq_some_of_mem h ha
  rw [hid, find?_eq_some_of_mem h hb] at hfind
  exact (Option.some.inj hfind).symm

/-- An anchor in front of the children is offered by containers only. -/
theorem BlockType.isContainer_of_inner {type : BlockType}
    (h : .inner ∈ type.snapPoints.map SnapPoint.type) : type.isContainer = true := by
  cases type <;> first | rfl | exact absurd h (by decide)

/-- An anchor behind a block is offered by the types that stand inside other blocks. -/
theorem BlockType.nested_of_append {type : BlockType} (h : .append ∈ type.snapPoints.map SnapPoint.type) :
    ¬ (type.isTopLevel = true ∨ type = .dummy) := by
  cases type <;> first | decide | exact absurd h (by decide)

theorem Block.isContainer_type (block : Block) : block.type.isContainer = block.isContainer := by
  rcases block with ⟨_, _, kind, _⟩ | ⟨_, _, kind⟩ <;> cases kind <;> rfl

/-- In going from one program to another, the list that starts with `dragged` has come where its target says,
and this is the place of the list in its new parent: in front of the children of the target, or right behind the
target in the parent that this has in both programs. -/
inductive Program.Drops (p q : Program) (dragged hover : String) : SnapType → String → Nat → Prop where
  | inner {block child : Block} {rest : List Block} (hfind : q.find? hover = some block)
    (hchildren : block.children = child :: rest) (hchild : child.id = dragged) :
    Drops p q dragged hover .inner hover 0
  | append {old block target child : Block} {front back : List Block} (hold : p.parent? hover = some old)
    (hparent : q.parent? hover = some block) (hid : block.id = old.id)
    (hchildren : block.children = front ++ target :: child :: back) (htarget : target.id = hover)
    (hchild : child.id = dragged) : Drops p q dragged hover .append old.id (front.length + 1)

namespace Diagram

/-- A list can be dropped: it stands in a dummy, and the target is a block that does not move along and offers
the anchor. -/
structure Droppable (d : Diagram) (dragging hover : String) (snap : SnapType) (dummy block : Block) : Prop where
  held : d.dummyFor? dragging = some dummy
  ne_dragging : hover ≠ dragging
  ne_dummy : hover ≠ dummy.id
  outside : Block.findIn? hover dummy.children = none
  found : d.program.find? hover = some block
  offered : snap ∈ block.type.snapPoints.map SnapPoint.type

variable {d : Diagram} {hover dragging : String} {snap : SnapType} {dummy target : Block} {index : Nat}

/-- A container of a program takes a list wherever it stands. -/
theorem exists_insertAt?_eq_some {p : Program} (hids : p.ids.Nodup) (htarget : target ∈ p.preorder)
    (hcontainer : target.isContainer = true) (index : Nat) (list : List Block) :
    ∃ p' nested, insertAt? p target.id index list = some p' ∧
      Block.Exchange target (target.insertChildren index list) nested p.blocks p'.blocks := by
  have hfind : Block.findIn? target.id p.blocks = some target := Program.find?_eq_some_of_mem hids htarget
  unfold insertAt?
  -- the lookup finds the target, so the edit meets it
  cases hedit : Block.editFirstIn? target.id
      (fun block => (block.isContainer, block.insertChildren index list)) p.blocks with
  | none =>
    rw [Block.editFirstIn?_eq_none hedit] at hfind
    cases hfind
  | some found =>
    obtain ⟨answer, blocks⟩ := found
    obtain ⟨block, nested, hblock, -, hanswer, hexchange⟩ := Block.editFirstIn?_eq_some hedit
    obtain rfl : target = block := Option.some.inj (hfind.symm.trans hblock)
    have htrue : answer = true := hanswer.symm.trans hcontainer
    subst htrue
    exact ⟨⟨blocks⟩, nested, rfl, hexchange⟩

/-- A commit whose target does not move along is carried out: the dummy leaves the top level, and its list goes
among the children of the target. -/
theorem commit_of_target (hids : d.program.ids.Nodup) (hfor : d.dummyFor? dragging = some dummy)
    (hself : hover ≠ dragging) (hdummy : hover ≠ dummy.id)
    (houtside : Block.findIn? hover dummy.children = none)
    (hplace : d.target? hover snap = some (target.id, index)) (htarget : target ∈ d.program.preorder)
    (hcontainer : target.isContainer = true) (hkept : target ≠ dummy)
    (hkeptInside : target ∉ Block.preorderIn dummy.children) :
    ∃ front back nested p', d.program.blocks = front ++ dummy :: back ∧
      Block.Exchange target (target.insertChildren index dummy.children) nested (front ++ back) p'.blocks ∧
      d.commit hover snap dragging =
        (.committed target.id index dummy.children.length, { d with program := p' }) := by
  obtain ⟨⟨holder, rest⟩, hremove⟩ := Block.exists_removeFrom?_eq_some (dummyFor?_eq_some hfor).1
  obtain rfl : holder = dummy := removeFrom?_dummy hids hfor hremove
  -- the target is still there when the dummy is taken out
  have hrest : target ∈ (⟨rest⟩ : Program).preorder :=
    Block.mem_preorderIn_of_removeFrom? hremove htarget hkept hkeptInside
  have hidsRest : (⟨rest⟩ : Program).ids.Nodup := (Block.idsIn_sublist_of_removeFrom? hremove).nodup hids
  obtain ⟨p', nested, hinsert, hexchange⟩ :=
    exists_insertAt?_eq_some hidsRest hrest hcontainer index holder.children
  obtain ⟨front, back, hblocks, rfl, -⟩ := Block.removeFrom?_eq_some hremove
  refine ⟨front, back, nested, p', hblocks, hexchange, ?_⟩
  have hcond : ¬ (hover = holder.id ∨ (Block.findIn? hover holder.children).isSome = true) := by
    rw [houtside]
    simpa using hdummy
  obtain ⟨taken, htaken, hlist, htakenRest, -⟩ := Program.takeOut?_of_removeFrom? hremove
  unfold commit
  rw [hfor]
  simp only [if_neg hself, if_neg hcond, hplace, htaken, hlist, htakenRest, hinsert]

/-- A list that a dummy holds is committed, or it is refused or finds no place: it is there. -/
theorem commit_ne_nothingToCommit (hheld : d.dummyFor? dragging ≠ none) :
    (d.commit hover snap dragging).1 ≠ .nothingToCommit := by
  obtain ⟨dummy, hfor⟩ := Option.ne_none_iff_exists'.mp hheld
  obtain ⟨⟨holder, rest⟩, hremove⟩ := Block.exists_removeFrom?_eq_some (dummyFor?_eq_some hfor).1
  obtain ⟨taken, htaken, -, -, -⟩ := Program.takeOut?_of_removeFrom? hremove
  unfold commit
  simp only [hfor]
  split_ifs
  · exact nofun
  · exact nofun
  cases d.target? hover snap with
  | none => exact nofun
  | some place =>
    simp only [htaken]
    -- a block with the id of the dummy was taken out, and its list either goes in or not
    cases insertAt? ⟨taken.rest⟩ place.1 place.2 taken.list <;> exact nofun

/-- A dummy that is found has the block for its first child. -/
theorem children_of_dummyFor? {id : String} (h : d.dummyFor? id = some dummy) :
    ∃ child rest, dummy.children = child :: rest ∧ child.id = id := by
  have hprop := List.find?_some h
  rw [Bool.and_eq_true] at hprop
  cases hchildren : dummy.children with
  | nil => simp [hchildren] at hprop
  | cons child rest => exact ⟨child, rest, rfl, by simpa [hchildren] using hprop.2⟩

namespace Droppable

variable {block : Block}

/-- The target is neither the dummy nor inside it. -/
theorem kept (h : Droppable d dragging hover snap dummy block) :
    block ∈ d.program.preorder ∧ block.id = hover ∧ block ≠ dummy ∧
      ∀ x ∈ Block.preorderIn dummy.children, x.id ≠ hover := by
  have hfound := h.found
  rw [Program.find?, Block.findIn?_eq_find?_preorderIn] at hfound
  have hid : block.id = hover := by simpa using List.find?_some hfound
  have houtside := h.outside
  rw [Block.findIn?_eq_find?_preorderIn, List.find?_eq_none] at houtside
  refine ⟨List.mem_of_find?_eq_some hfound, hid, ?_, fun x hx hxid => houtside x hx (by simpa using hxid)⟩
  rintro rfl
  exact h.ne_dummy hid.symm

/-- A list dropped on an anchor in front of the children goes there. -/
theorem drops_inner (h : Droppable d dragging hover .inner dummy block) (hvalid : d.program.Valid) :
    ∃ parent index moved p', d.commit hover .inner dragging =
        (.committed parent index moved, { d with program := p' }) ∧
      d.program.Drops p' dragging hover .inner parent index := by
  obtain ⟨hmem, rfl, hdummy, hinside⟩ := h.kept
  have hcontainer : block.isContainer = true := by
    rw [← Block.isContainer_type]
    exact BlockType.isContainer_of_inner h.offered
  have hplace : d.target? block.id .inner = some (block.id, 0) := by
    rw [target?, h.found]
    exact if_pos hcontainer
  obtain ⟨_, _, _, p', -, hexchange, hcommit⟩ := commit_of_target hvalid.ids_nodup h.held h.ne_dragging h.ne_dummy
    h.outside hplace hmem hcontainer hdummy fun hin => hinside block hin rfl
  have hvalid' : p'.Valid := by
    have hkept := hvalid.commit d block.id .inner dragging
    rwa [hcommit] at hkept
  -- the new program has the list in front of the old children
  obtain ⟨child, rest, hchildren, hchild⟩ := children_of_dummyFor? h.held
  have hfind := Program.find?_eq_some_of_mem hvalid'.ids_nodup hexchange.mem_preorderIn
  rw [Block.id_insertChildren] at hfind
  have hfilled : (block.insertChildren 0 dummy.children).children = child :: (rest ++ block.children) := by
    rw [Block.insertChildren, Block.children_withChildren hcontainer, hchildren]
    rfl
  exact ⟨_, _, _, p', hcommit, .inner hfind hfilled hchild⟩

/-- A block that offers an anchor behind it stands inside another block. -/
theorem not_topLevel (h : Droppable d dragging hover .append dummy block) (hvalid : d.program.Valid) :
    Block.hasChild hover d.program.blocks = false := by
  obtain ⟨hmem, rfl, -, -⟩ := h.kept
  rw [Bool.eq_false_iff, Ne, Block.hasChild_iff]
  rintro ⟨other, hother, hid⟩
  obtain rfl : other = block := Program.eq_of_mem_preorder hvalid.ids_nodup (Block.mem_preorderIn hother) hmem hid
  -- its type does not stand at the top level
  have hplaced := (hvalid.placed _ (Block.node_mem_nodesIn hother)).mp rfl
  rw [show (other.node false).own.type = other.type from other.type_own] at hplaced
  exact BlockType.nested_of_append h.offered hplaced

/-- The parent of a block that offers an anchor behind it does not move along either. -/
theorem exists_parent (h : Droppable d dragging hover .append dummy block) (hvalid : d.program.Valid) :
    ∃ parent index, d.program.parent? hover = some parent ∧ Block.indexIn? hover parent.children = some index ∧
      parent.isContainer = true ∧ parent ∈ d.program.preorder ∧ parent ≠ dummy ∧
      parent ∉ Block.preorderIn dummy.children := by
  obtain ⟨hmem, hid, -, hinside⟩ := h.kept
  have hids : hover ∈ Block.idsIn d.program.blocks := (Block.mem_idsIn_iff _ _).mpr ⟨block, hmem, hid⟩
  obtain ⟨parent, hparent⟩ := Block.exists_parentIn?_eq_some hids (h.not_topLevel hvalid)
  obtain ⟨hparentMem, hhas⟩ := Block.of_parentIn?_eq_some hparent
  obtain ⟨index, hindex⟩ := Block.exists_indexIn?_eq_some hhas
  obtain ⟨child, hchild, hchildId⟩ := (Block.hasChild_iff _ _).mp hhas
  refine ⟨parent, index, hparent, hindex, ?_, hparentMem, ?_, fun hin => ?_⟩
  · exact Block.isContainer_of_children_ne_nil (Block.children_ne_nil_of_hasChild hhas)
  · -- or the target would move along
    rintro rfl
    exact hinside child (Block.mem_preorderIn hchild) hchildId
  · exact hinside child (Block.mem_preorderIn_of_mem_children hin hchild) hchildId

/-- A list dropped on an anchor behind a block goes there. -/
theorem drops_append (h : Droppable d dragging hover .append dummy block) (hvalid : d.program.Valid) :
    ∃ parent index moved p', d.commit hover .append dragging =
        (.committed parent index moved, { d with program := p' }) ∧
      d.program.Drops p' dragging hover .append parent index := by
  obtain ⟨old, index, hold, hindex, hcontainer, holdMem, hdummy, hinside⟩ := h.exists_parent hvalid
  have hplace : d.target? hover .append = some (old.id, index + 1) := by
    rw [target?, hold]
    simp only [Option.bind_eq_bind, Option.bind_some, hindex]
    rfl
  obtain ⟨_, _, _, p', -, hexchange, hcommit⟩ := commit_of_target hvalid.ids_nodup h.held h.ne_dragging h.ne_dummy
    h.outside hplace holdMem hcontainer hdummy hinside
  have hvalid' : p'.Valid := by
    have hkept := hvalid.commit d hover .append dragging
    rwa [hcommit] at hkept
  -- the new program has the list right behind the target
  obtain ⟨child, rest, hchildren, hchild⟩ := children_of_dummyFor? h.held
  obtain ⟨front, target, back, hfilled, rfl, htarget⟩ :=
    Block.exists_insertChildren_eq hcontainer hindex dummy.children
  have hparent : p'.parent? hover = some (old.insertChildren (front.length + 1) dummy.children) := by
    refine Block.parentIn?_eq_some_of_mem hvalid'.ids_nodup hexchange.mem_preorderIn ?_
    rw [Block.hasChild_iff]
    exact ⟨target, by simp [hfilled], htarget⟩
  have hlist : dummy.children ++ back = child :: (rest ++ back) := by rw [hchildren, List.cons_append]
  rw [hlist] at hfilled
  exact ⟨_, _, _, p', hcommit, .append hold hparent (Block.id_insertChildren _ _ _) hfilled htarget hchild⟩

/-- A list dropped on an anchor that a block offers goes to this anchor. -/
theorem drops (h : Droppable d dragging hover snap dummy block) (hvalid : d.program.Valid) :
    ∃ parent index moved p', d.commit hover snap dragging =
        (.committed parent index moved, { d with program := p' }) ∧
      d.program.Drops p' dragging hover snap parent index := by
  cases snap with
  | inner => exact h.drops_inner hvalid
  | append => exact h.drops_append hvalid

end Droppable

end Diagram

end Signalbox
