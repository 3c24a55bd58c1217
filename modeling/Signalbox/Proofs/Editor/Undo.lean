import Signalbox.Proofs.Editor.Splice

/-!
# Undoing a split

A split takes a block and the siblings behind it away from their parent, and a commit can put them back. The way back
leads to the last of the siblings that stayed, or to the parent when none did. It restores the program as it was, since
both edits change one block in place, and the second one changes the block back that the first one changed.

Main results:

* `Block.Exchange.eq_of_nodup`: when ids are distinct, there is one place for a block.
* `Diagram.exists_split_eq`: what a split makes of a program.
* `Diagram.restores_split`: a split can be repeated without effect, and a commit restores the program.
-/

namespace Signalbox

namespace Block

variable {old new block parent : Block} {nested nested' : Bool} {blocks blocks' blocks'' front back : List Block}

theorem Exchange.id_mem_idsIn (h : Exchange old new nested blocks blocks') : old.id ∈ idsIn blocks :=
  (mem_idsIn_iff _ _).mpr ⟨old, h.symm.mem_preorderIn, rfl⟩

/-- Distinct ids are distinct in each part of a list and across its parts. -/
theorem nodup_idsIn_cons {rest : List Block} (h : (idsIn (block :: rest)).Nodup) :
    block.id ∉ idsIn block.children ∧ block.id ∉ idsIn rest ∧ (idsIn block.children).Nodup ∧
      (idsIn rest).Nodup ∧ List.Disjoint (idsIn block.children) (idsIn rest) := by
  rw [idsIn_cons, List.nodup_cons, List.mem_append, not_or, List.nodup_append'] at h
  obtain ⟨⟨hchildren, hrest⟩, hnodup⟩ := h
  exact ⟨hchildren, hrest, hnodup⟩

/-- With distinct ids a block stands in one place, so there is one list with another block in its stead. -/
theorem Exchange.eq_of_nodup (h : Exchange old new nested blocks blocks') (hids : (idsIn blocks).Nodup)
    (h' : Exchange old new nested' blocks blocks'') : blocks' = blocks'' := by
  -- both derivations go the same way, or the id of the block would be there twice
  induction h generalizing nested' blocks'' with
  | here rest =>
    obtain ⟨hchildren, hrest, -⟩ := nodup_idsIn_cons hids
    cases h' with
    | here => rfl
    | later _ hlater => exact absurd hlater.id_mem_idsIn hrest
    | inside _ _ _ _ hinside => exact absurd hinside.id_mem_idsIn hchildren
  | later block hlater ih =>
    obtain ⟨-, hrest, -, hnodup, hdisjoint⟩ := nodup_idsIn_cons hids
    cases h' with
    | here => exact absurd hlater.id_mem_idsIn hrest
    | later _ hlater' => rw [ih hnodup hlater']
    | inside _ _ _ _ hinside => exact absurd hlater.id_mem_idsIn (hdisjoint hinside.id_mem_idsIn)
  | inside id position kind rest hinside ih =>
    obtain ⟨hchildren, -, hnodup, -, hdisjoint⟩ := nodup_idsIn_cons hids
    cases h' with
    | here => exact absurd hinside.id_mem_idsIn hchildren
    | later _ hlater => exact absurd hlater.id_mem_idsIn (hdisjoint hinside.id_mem_idsIn)
    | inside _ _ _ _ hinside' => rw [ih hnodup hinside']

/-- The cut is in front of the block when no sibling in front of it shares its id. -/
theorem cut_eq (hchildren : parent.children = front ++ block :: back)
    (hfront : ∀ other ∈ front, other.id ≠ block.id) :
    parent.childrenBefore block.id = front ∧ parent.childrenFrom block.id = block :: back := by
  have hpos : ∀ other ∈ front, decide (other.id ≠ block.id) = true := fun other hother =>
    decide_eq_true (hfront other hother)
  constructor
  · rw [childrenBefore, hchildren, List.takeWhile_append_of_pos hpos, List.takeWhile_cons_of_neg (by simp),
      List.append_nil]
  · rw [childrenFrom, hchildren, List.dropWhile_append_of_pos hpos, List.dropWhile_cons_of_neg (by simp)]

theorem id_withChildren (block : Block) (list : List Block) : (block.withChildren list).id = block.id := by
  cases block <;> rfl

theorem isContainer_withChildren (block : Block) (list : List Block) :
    (block.withChildren list).isContainer = block.isContainer := by
  cases block <;> rfl

/-- Where a list goes back to that was cut off behind some children: the last of them, or their parent when there are
none. -/
def joint (parent : Block) (front : List Block) : String × SnapType :=
  match front.getLast? with
  | some last => (last.id, .append)
  | none => (parent.id, .inner)

end Block

namespace Program

variable {p : Program} {parent : Block} {front : List Block}

/-- The joint is a place behind all children. -/
theorem place_joint (hmem : parent ∈ p.preorder) (hcontainer : parent.isContainer = true)
    (hchildren : parent.children = front) :
    p.Place (parent.joint front).1 (parent.joint front).2 parent front [] := by
  rcases List.eq_nil_or_concat front with rfl | ⟨front, last, rfl⟩
  · have hplace : p.Place parent.id .inner parent [] parent.children := .inner hmem rfl hcontainer
    rwa [hchildren] at hplace
  · rw [List.concat_eq_append] at hchildren ⊢
    rw [Block.joint, List.getLast?_concat]
    exact .append hmem hchildren rfl

/-- The joint is a block of the program. -/
theorem joint_mem_ids (hmem : parent ∈ p.preorder) (hchildren : parent.children = front) :
    (parent.joint front).1 ∈ p.ids := by
  rw [ids, Block.mem_idsIn_iff]
  cases hlast : front.getLast? with
  | none => exact ⟨parent, hmem, by rw [Block.joint, hlast]⟩
  | some last =>
    have hchild : last ∈ parent.children := by
      rw [hchildren]
      exact List.mem_of_getLast? hlast
    exact ⟨last, Block.mem_preorderIn_of_mem_children hmem hchild, by rw [Block.joint, hlast]⟩

end Program

/-- A block at the end of a list that is there once is the only way to write the list around it. -/
theorem eq_of_append_cons_eq_append_singleton {α : Type} {front back rest : List α} {x : α}
    (h : front ++ x :: back = rest ++ [x]) (hx : x ∉ rest) : front = rest ∧ back = [] := by
  rcases List.append_eq_append_iff.mp h with ⟨between, rfl, heq⟩ | ⟨between, rfl, heq⟩
  · cases between with
    | nil => exact ⟨(List.append_nil front).symm, (List.cons.inj heq).2⟩
    | cons first between =>
      -- the block would be in front of the end as well
      obtain ⟨rfl, -⟩ := List.cons.inj heq
      exact absurd (List.mem_append_right _ List.mem_cons_self) hx
  · cases between with
    | nil => exact ⟨List.append_nil rest, (List.cons.inj heq).2.symm⟩
    | cons first between => simp at heq

namespace Diagram

variable {d : Diagram} {parent block : Block} {front back : List Block}

/-- A dummy holds a list from its first block on only. -/
theorem dummyFor?_eq_none (hids : d.program.ids.Nodup) (hparent : parent ∈ d.program.preorder)
    (hchildren : parent.children = front ++ block :: back)
    (hfirst : ¬ (parent ∈ d.program.blocks ∧ parent.isDummy = true ∧ front = [])) :
    d.dummyFor? block.id = none := by
  cases hfor : d.dummyFor? block.id with
  | none => rfl
  | some holder =>
    obtain ⟨hmem, hdummy, hhead⟩ := (dummyFor?_eq_some_iff hids).mp hfor
    obtain ⟨child, hchild, hid⟩ := Option.map_eq_some_iff.mp hhead
    -- the holder has the block for a child, so it is the parent
    have hhas : Block.hasChild block.id parent.children = true :=
      (Block.hasChild_iff _ _).mpr ⟨block, by simp [hchildren], rfl⟩
    have hholderHas : Block.hasChild block.id holder.children = true :=
      (Block.hasChild_iff _ _).mpr ⟨child, List.mem_of_head? hchild, hid⟩
    have hsame := Block.parentIn?_eq_some_of_mem hids (Block.mem_preorderIn hmem) hholderHas
    rw [Block.parentIn?_eq_some_of_mem hids hparent hhas] at hsame
    obtain rfl := Option.some.inj hsame
    refine absurd ⟨hmem, hdummy, ?_⟩ hfirst
    -- and nothing is in front of the block
    cases hfront : front with
    | nil => rfl
    | cons head tail =>
      rw [hchildren, hfront] at hchild
      obtain rfl : head = child := by simpa using hchild
      have hmem : head ∈ front := by rw [hfront]; exact List.mem_cons_self
      exact absurd hid (Block.ne_id_of_children_eq hids hparent hchildren head hmem)

/-- A split leaves the parent with the children in front of the block, and a new dummy at the end of the top level holds
the others. -/
theorem exists_split_eq (hids : d.program.ids.Nodup) (hparent : parent ∈ d.program.preorder)
    (hchildren : parent.children = front ++ block :: back) (hfor : d.dummyFor? block.id = none)
    (position : Position) :
    ∃ name nested, ∃ p' : Program,
      Block.Exchange parent (parent.withChildren front) nested d.program.blocks p'.blocks ∧
      d.split block.id position = (.ok name, { d with
        program := p'.push (.container name (some position) .dummy (block :: back))
        dummyCount := d.program.nextDummy d.dummyCount + 1 }) := by
  have hhas : Block.hasChild block.id parent.children = true :=
    (Block.hasChild_iff _ _).mpr ⟨block, by simp [hchildren], rfl⟩
  have hmem : d.program.contains block.id = true := by
    rw [Program.contains_iff, Program.ids, Block.mem_idsIn_iff]
    exact ⟨block, Block.mem_preorderIn_of_mem_children hparent (by simp [hchildren]), rfl⟩
  obtain ⟨detached, p', hdetach⟩ := exists_detach_eq_ok hmem (Block.hasChild_eq_false_of_mem hids hparent hhas)
  obtain ⟨other, nested, hother, hdetached, hexchange⟩ := Program.detach_eq_ok hdetach
  -- the block has one parent
  have hsame := Block.parentIn?_eq_some_of_mem hids hexchange.symm.mem_preorderIn hother
  rw [Block.parentIn?_eq_some_of_mem hids hparent hhas] at hsame
  obtain rfl := Option.some.inj hsame
  obtain ⟨hbefore, hfrom⟩ := Block.cut_eq hchildren (Block.ne_id_of_children_eq hids hparent hchildren)
  rw [hbefore] at hexchange
  refine ⟨dummyName (d.program.nextDummy d.dummyCount), nested, p', hexchange, ?_⟩
  rw [split, hfor]
  simp only [createDummy, hdetach, hdetached, hfrom]
  rfl

/-- The list of a dummy at the end of the top level goes behind all children of another block. -/
theorem exists_commit_joint_eq (hids : d.program.ids.Nodup) {rest : List Block} {dragging : String}
    {holder left : Block} (hblocks : d.program.blocks = rest ++ [holder]) (hholds : d.program.IsHolder dragging holder)
    (hleft : left ∈ Block.preorderIn rest) (hcontainer : left.isContainer = true) :
    ∃ nested, ∃ q : Program,
      Block.Exchange left (left.withChildren (left.children ++ holder.children)) nested rest q.blocks ∧
      d.commit (left.joint left.children).1 (left.joint left.children).2 dragging =
        (.committed left.id left.children.length holder.children.length, { d with program := q }) := by
  have hdisjoint : List.Disjoint (Block.idsIn rest) (Block.idsIn [holder]) := by
    rw [Program.ids, hblocks, Block.idsIn_append] at hids
    exact (List.nodup_append'.mp hids).2.2
  have hleft' : left ∈ d.program.preorder := by
    rw [Program.preorder, hblocks, Block.preorderIn_append]
    exact List.mem_append_left _ hleft
  have hcommittable : d.Committable (left.joint left.children).1 (left.joint left.children).2 dragging holder left
      left.children [] := by
    refine ⟨hholds, fun x hx hid => ?_, Program.place_joint hleft' hcontainer rfl⟩
    -- the joint is outside the dummy
    have hjoint : (left.joint left.children).1 ∈ Block.idsIn rest := Program.joint_mem_ids (p := ⟨rest⟩) hleft rfl
    refine hdisjoint hjoint ?_
    rw [Block.mem_idsIn_iff, Block.preorderIn, Block.preorderIn, List.append_nil]
    exact ⟨x, hx, hid⟩
  obtain ⟨front, back, nested, q, hsplit, hexchange, hcommit⟩ := hcommittable.commit_eq hids
  -- the dummy is the last block of the top level
  have hnot : holder ∉ rest := fun hmem =>
    hdisjoint ((Block.mem_idsIn_iff _ _).mpr ⟨holder, Block.mem_preorderIn hmem, rfl⟩)
      ((Block.mem_idsIn_iff _ _).mpr ⟨holder, Block.mem_preorderIn List.mem_cons_self, rfl⟩)
  rw [hblocks] at hsplit
  obtain ⟨rfl, rfl⟩ := eq_of_append_cons_eq_append_singleton hsplit.symm hnot
  rw [List.append_nil, List.append_nil] at hexchange
  exact ⟨nested, q, hexchange, hcommit⟩

/-- A block inside another one that no dummy starts with can be split off. To split it off again gives the same dummy
and changes nothing, and the commit at the joint puts the list back to where it was and restores the program. -/
theorem restores_split (d : Diagram) (hvalid : d.program.violations = []) {parent block : Block}
    {front back : List Block} (hparent : parent ∈ d.program.preorder)
    (hchildren : parent.children = front ++ block :: back)
    (hfirst : ¬ (parent ∈ d.program.blocks ∧ parent.isDummy = true ∧ front = [])) (position : Position) :
    ∃ holder d', d.split block.id position = (.ok holder, d') ∧
      (∀ other, d'.split block.id other = (.ok holder, d')) ∧
      d'.commit (parent.joint front).1 (parent.joint front).2 block.id =
        (.committed parent.id front.length (back.length + 1), { d' with program := d.program }) := by
  have hvalid : d.program.Valid := (Program.violations_eq_nil_iff _).mp hvalid
  have hids := hvalid.ids_nodup
  have hcontainer : parent.isContainer = true := Block.isContainer_of_children_ne_nil (by simp [hchildren])
  obtain ⟨name, nested, p', hexchange, hsplit⟩ := exists_split_eq hids hparent hchildren
    (dummyFor?_eq_none hids hparent hchildren hfirst) position
  have hids' := (hvalid.split d block.id position).ids_nodup
  obtain ⟨d', hd'⟩ : ∃ d', (d.split block.id position).2 = d' := ⟨_, rfl⟩
  rw [hd'] at hids'
  rw [hsplit] at hd'
  have hblocks' : d'.program.blocks = p'.blocks ++ [.container name (some position) .dummy (block :: back)] := by
    rw [← hd']
    rfl
  -- the new dummy is the one that holds the list
  have hholds : d'.program.IsHolder block.id (.container name (some position) .dummy (block :: back)) :=
    ⟨by rw [hblocks']; simp, rfl, rfl⟩
  refine ⟨name, d', by rw [hsplit, ← hd'], fun other => ?_, ?_⟩
  · rw [split, (dummyFor?_eq_some_iff hids').mpr hholds]
    rfl
  -- the commit gives the parent the children that it had
  obtain ⟨nested', q, hback, hcommit⟩ := exists_commit_joint_eq hids' hblocks' hholds hexchange.mem_preorderIn
    ((Block.isContainer_withChildren _ _).trans hcontainer)
  rw [Block.children_withChildren hcontainer] at hback hcommit
  rw [Block.children, ← hchildren, Block.withChildren_withChildren_children] at hback
  have hidsRest : (Block.idsIn p'.blocks).Nodup := by
    rw [Program.ids, hblocks', Block.idsIn_append] at hids'
    exact (List.nodup_append'.mp hids').1
  have hrestored : q = d.program := congrArg Program.mk (hback.eq_of_nodup hidsRest hexchange.symm)
  have hjoint : (parent.withChildren front).joint front = parent.joint front := by
    rw [Block.joint, Block.joint, Block.id_withChildren]
  rw [hjoint, Block.id_withChildren] at hcommit
  rw [hcommit, hrestored]
  rfl

/-- The list that is split off empties a container inside a dummy, and it goes back into this container. -/
theorem restores_split_twoHolders :
    twoHolders.program.violations = [] ∧
      ∃ holder d', twoHolders.split "y" ⟨1, 2⟩ = (.ok holder, d') ∧
        (∀ other, d'.split "y" other = (.ok holder, d')) ∧
        d'.commit "c" .inner "y" = (.committed "c" 0 2, { d' with program := twoHolders.program }) := by
  have hvalid : twoHolders.program.violations = [] := by decide
  let branch : Block := .container "c" none (.branch "true")
    [.statement "y" none (.log (.text "y")), .statement "z" none (.log (.text "z"))]
  have hparent : branch ∈ twoHolders.program.preorder := by
    simp [twoHolders, ofProgram, Program.preorder, Block.preorderIn, Block.preorder, branch]
  have hchildren : branch.children =
      [] ++ .statement "y" none (.log (.text "y")) :: [.statement "z" none (.log (.text "z"))] := rfl
  have hfirst : ¬ (branch ∈ twoHolders.program.blocks ∧ branch.isDummy = true ∧ ([] : List Block) = []) :=
    fun h => Bool.false_ne_true h.2.1
  exact ⟨hvalid, restores_split twoHolders hvalid hparent hchildren hfirst ⟨1, 2⟩⟩

end Diagram

end Signalbox
