import Signalbox.Proofs.Editor.Gesture

/-!
# What a commit does to the tree

A commit looks for a dummy, a target and a place by id, and it looks on two trees, with the dummy in it and without.
When ids are distinct nothing of this can be seen from outside. Here it is said without lookups which lists are
committed and where they go, and that a commit changes one list of children and the top level, and nothing else.

Main results:

* `Diagram.dummyFor?_eq_some_iff` / `Diagram.target?_eq_some_iff`: what the two lookups of a commit find.
* `Diagram.Committable.commit_eq`: a list that can be committed goes to its place, and all else stays.
* `Diagram.committed_iff_and_splices`: a list is committed exactly when it can be, and then it goes to its place.
-/

namespace Signalbox

namespace Program

/-- A dummy of the top level whose list starts with a block. -/
structure IsHolder (p : Program) (dragging : String) (holder : Block) : Prop where
  mem : holder ∈ p.blocks
  isDummy : holder.isDummy = true
  first : holder.children.head?.map Block.id = some dragging

/-- A place that a target offers to a list: among the children of a block, in front of them all when that block is
the target, and right behind the target when this is one of the children. The children on both sides of the place
are `before` and `after`. -/
inductive Place (p : Program) (hover : String) : SnapType → Block → List Block → List Block → Prop where
  | inner {target : Block} (hmem : target ∈ p.preorder) (hid : target.id = hover)
    (hcontainer : target.isContainer = true) : Place p hover .inner target [] target.children
  | append {parent target : Block} {front back : List Block} (hmem : parent ∈ p.preorder)
    (hchildren : parent.children = front ++ target :: back) (hid : target.id = hover) :
    Place p hover .append parent (front ++ [target]) back

/-- What is found is a block of the program with the id. -/
theorem of_find?_eq_some {p : Program} {id : String} {block : Block} (h : p.find? id = some block) :
    block ∈ p.preorder ∧ block.id = id := by
  rw [find?, Block.findIn?_eq_find?_preorderIn] at h
  have hid := List.find?_some h
  exact ⟨List.mem_of_find?_eq_some h, by simpa using hid⟩

namespace Place

variable {p : Program} {hover : String} {snap : SnapType} {parent : Block} {before after : List Block}

/-- The parent of a place is a block of the program. -/
theorem mem (h : p.Place hover snap parent before after) : parent ∈ p.preorder := by
  cases h with
  | inner hmem => exact hmem
  | append hmem => exact hmem

/-- The children on both sides of a place are all children. -/
theorem children_eq (h : p.Place hover snap parent before after) : parent.children = before ++ after := by
  cases h with
  | inner => rfl
  | append _ hchildren => rw [hchildren, List.append_assoc, List.singleton_append]

/-- The parent of a place is a container. -/
theorem isContainer (h : p.Place hover snap parent before after) : parent.isContainer = true := by
  cases h with
  | inner _ _ hcontainer => exact hcontainer
  | append _ hchildren => exact Block.isContainer_of_children_ne_nil (by simp [hchildren])

/-- A place does not move along when the target does not. -/
theorem not_mem_preorder (h : p.Place hover snap parent before after) {holder : Block}
    (houtside : ∀ x ∈ holder.preorder, x.id ≠ hover) : parent ∉ holder.preorder := by
  intro hin
  cases h with
  | inner _ hid => exact houtside _ hin hid
  | @append _ target front back _ hchildren hid =>
    have htarget : target ∈ parent.children := by simp [hchildren]
    -- the target is a child of the parent, and it would be inside the holder as well
    rw [Block.preorder_eq_cons] at hin houtside
    rcases List.mem_cons.mp hin with rfl | hin
    · exact houtside target (List.mem_cons_of_mem _ (Block.mem_preorderIn htarget)) hid
    · exact houtside target (List.mem_cons_of_mem _ (Block.mem_preorderIn_of_mem_children hin htarget)) hid

end Place

end Program

namespace Block

variable {id : String} {blocks front back : List Block} {block target : Block}

/-- The first block with an id, and the others on both sides of it. -/
theorem exists_eq_append_of_indexIn? {index : Nat} (h : indexIn? id blocks = some index) :
    ∃ front target back, blocks = front ++ target :: back ∧ front.length = index ∧ target.id = id := by
  obtain ⟨hlt, htarget, -⟩ := List.findIdx?_eq_some_iff_getElem.mp h
  refine ⟨blocks.take index, blocks[index], blocks.drop (index + 1), ?_, ?_, by simpa using htarget⟩
  · rw [List.getElem_cons_drop, List.take_append_drop]
  · rw [List.length_take]
    omega

theorem indexIn?_append_cons (hfront : ∀ other ∈ front, other.id ≠ id) (hid : target.id = id) :
    indexIn? id (front ++ target :: back) = some front.length := by
  induction front with
  | nil => rw [List.nil_append, indexIn?, List.findIdx?_cons, if_pos (decide_eq_true hid), List.length_nil]
  | cons head front ih =>
    obtain ⟨hhead, hfront⟩ := List.forall_mem_cons.mp hfront
    have htail := ih hfront
    rw [indexIn?] at htail
    rw [indexIn?, List.cons_append, List.findIdx?_cons, htail]
    simp [hhead]

/-- No child in front of another one has the same id. -/
theorem ne_id_of_children_eq (hids : (idsIn blocks).Nodup) (hmem : block ∈ preorderIn blocks)
    (hchildren : block.children = front ++ target :: back) : ∀ other ∈ front, other.id ≠ target.id := by
  have hnodup := nodup_childIds hids hmem
  rw [childIds, hchildren, List.map_append, List.map_cons] at hnodup
  intro other hother hid
  refine (List.nodup_append'.mp hnodup).2.2 (List.mem_map_of_mem hother) ?_
  rw [hid]
  exact List.mem_cons_self

/-- To insert a list at a place is to put it between the children in front of the place and those behind it. -/
theorem insertChildren_eq (hchildren : block.children = front ++ back) (list : List Block) :
    block.insertChildren front.length list = block.withChildren (front ++ list ++ back) := by
  rw [insertChildren, hchildren, List.take_left, List.drop_left]

end Block

namespace Diagram

variable {d : Diagram} {hover dragging : String} {snap : SnapType} {holder parent : Block}
  {before after : List Block}

/-- What a commit asks for. The list stands in a dummy of the top level, the target is neither this dummy nor anything
inside it, and it offers a place. -/
structure Committable (d : Diagram) (hover : String) (snap : SnapType) (dragging : String) (holder parent : Block)
    (before after : List Block) : Prop where
  held : d.program.IsHolder dragging holder
  outside : ∀ x ∈ holder.preorder, x.id ≠ hover
  place : d.program.Place hover snap parent before after

/-! ## The lookups of a commit -/

/-- The dummy that is found is the one whose list starts with the block. -/
theorem dummyFor?_eq_some_iff (hids : d.program.ids.Nodup) :
    d.dummyFor? dragging = some holder ↔ d.program.IsHolder dragging holder := by
  constructor
  · intro hfor
    obtain ⟨hmem, hown, -⟩ := dummyFor?_eq_some hfor
    obtain ⟨child, rest, hchildren, hid⟩ := children_of_dummyFor? hfor
    exact ⟨hmem, (Block.isDummy_iff holder).mpr hown, by rw [hchildren, ← hid]; rfl⟩
  · intro hholds
    -- a block has one parent, so no other dummy has it for a child
    obtain ⟨child, hchild, hid⟩ := Option.map_eq_some_iff.mp hholds.first
    have hhas : Block.hasChild dragging holder.children = true :=
      (Block.hasChild_iff _ _).mpr ⟨child, List.mem_of_head? hchild, hid⟩
    have hparent := Block.parentIn?_eq_some_of_mem hids (Block.mem_preorderIn hholds.mem) hhas
    have hsome : d.dummyFor? dragging ≠ none := by
      rw [dummyFor?_ne_none_iff]
      exact ⟨holder, hholds.mem, by simp [hholds.isDummy, hchild, hid]⟩
    obtain ⟨found, hfound⟩ := Option.ne_none_iff_exists'.mp hsome
    obtain ⟨first, rest, hchildren, hfirst⟩ := children_of_dummyFor? hfound
    have hfoundHas : Block.hasChild dragging found.children = true :=
      (Block.hasChild_iff _ _).mpr ⟨first, by rw [hchildren]; exact List.mem_cons_self, hfirst⟩
    have hfoundParent := Block.parentIn?_eq_some_of_mem hids
      (Block.mem_preorderIn (dummyFor?_eq_some hfound).1) hfoundHas
    rw [hfound, ← hfoundParent, hparent]

/-- The parent and the index that are found are those of a place, and of every place that the target offers. -/
theorem target?_eq_some_iff (hids : d.program.ids.Nodup) {id : String} {index : Nat} :
    d.target? hover snap = some (id, index) ↔
      ∃ parent before after, d.program.Place hover snap parent before after ∧ parent.id = id ∧
        before.length = index := by
  constructor
  · intro h
    cases snap with
    -- the two snap points are looked up differently: the block itself, or its parent
    | inner =>
      rw [target?] at h
      cases hfind : d.program.find? hover with
      | none => simp [hfind] at h
      | some block =>
        simp only [hfind] at h
        obtain ⟨hmem, hid⟩ := Program.of_find?_eq_some hfind
        split_ifs at h with hcontainer
        obtain ⟨rfl, rfl⟩ := Prod.mk.inj (Option.some.inj h)
        exact ⟨block, [], block.children, .inner hmem hid hcontainer, rfl, rfl⟩
    | append =>
      simp only [target?, Option.bind_eq_bind, Option.pure_def] at h
      obtain ⟨parent, hparent, h⟩ := Option.bind_eq_some_iff.mp h
      obtain ⟨index, hindex, h⟩ := Option.bind_eq_some_iff.mp h
      obtain ⟨rfl, rfl⟩ := Prod.mk.inj (Option.some.inj h)
      obtain ⟨front, target, back, hchildren, rfl, hid⟩ := Block.exists_eq_append_of_indexIn? hindex
      refine ⟨parent, front ++ [target], back, ?_, rfl, List.length_append⟩
      exact .append (Block.of_parentIn?_eq_some hparent).1 hchildren hid
  · rintro ⟨parent, before, after, hplace, rfl, rfl⟩
    cases hplace with
    | inner hmem hid hcontainer =>
      subst hid
      rw [target?, Program.find?_eq_some_of_mem hids hmem]
      exact if_pos hcontainer
    | @append _ target front _ hmem hchildren hid =>
      subst hid
      -- with distinct ids the parent found is the one of the place
      have hhas : Block.hasChild target.id parent.children = true :=
        (Block.hasChild_iff _ _).mpr ⟨target, by simp [hchildren], rfl⟩
      have hparent : d.program.parent? target.id = some parent := Block.parentIn?_eq_some_of_mem hids hmem hhas
      have hindex : Block.indexIn? target.id (front ++ target :: after) = some front.length :=
        Block.indexIn?_append_cons (Block.ne_id_of_children_eq hids hmem hchildren) rfl
      rw [target?, hparent]
      simp only [Option.bind_eq_bind, Option.bind_some, hchildren, hindex, Option.pure_def]
      rw [List.length_append, List.length_singleton]

/-- A list that was committed was held by a dummy, and its target was found outside this dummy. -/
theorem of_commit_eq_committed {id : String} {index moved : Nat}
    (h : (d.commit hover snap dragging).1 = .committed id index moved) :
    ∃ dummy, d.dummyFor? dragging = some dummy ∧ hover ≠ dummy.id ∧
      Block.findIn? hover dummy.children = none ∧ d.target? hover snap = some (id, index) := by
  unfold commit at h
  cases hfor : d.dummyFor? dragging with
  | none => simp [hfor] at h
  | some dummy =>
    simp only [hfor] at h
    split_ifs at h with hself hinside
    rw [not_or, Option.not_isSome_iff_eq_none] at hinside
    refine ⟨dummy, rfl, hinside.1, hinside.2, ?_⟩
    -- a target was found; what follows can only answer with it
    cases htarget : d.target? hover snap with
    | none => simp [htarget] at h
    | some place =>
      simp only [htarget] at h
      split at h
      next => cases h
      next taken htaken =>
        split at h
        next => cases h
        next p hinsert =>
          obtain ⟨rfl, rfl, -⟩ := SnapOutcome.committed.inj h
          rfl

/-! ## The commit -/

/-- A list that can be committed goes to its place, and the rest of the program stays as it is. -/
theorem Committable.commit_eq (h : d.Committable hover snap dragging holder parent before after)
    (hids : d.program.ids.Nodup) :
    ∃ front back nested q, d.program.blocks = front ++ holder :: back ∧
      Block.Exchange parent (parent.withChildren (before ++ holder.children ++ after)) nested (front ++ back)
        q.blocks ∧
      d.commit hover snap dragging =
        (.committed parent.id before.length holder.children.length, { d with program := q }) := by
  have hfor := (dummyFor?_eq_some_iff hids).mpr h.held
  have htarget : d.target? hover snap = some (parent.id, before.length) :=
    (target?_eq_some_iff hids).mpr ⟨parent, before, after, h.place, rfl, rfl⟩
  have houtside := h.outside
  rw [Block.preorder_eq_cons] at houtside
  obtain ⟨hdummy, hinside⟩ := List.forall_mem_cons.mp houtside
  -- the dragged block is inside the dummy, and the target is not
  obtain ⟨child, rest, hchildren, hchild⟩ := children_of_dummyFor? hfor
  have hself : hover ≠ dragging := by
    rintro rfl
    exact hinside child (Block.mem_preorderIn (by rw [hchildren]; exact List.mem_cons_self)) hchild
  have hnone : Block.findIn? hover holder.children = none := by
    rw [Block.findIn?_eq_find?_preorderIn, List.find?_eq_none]
    exact fun x hx => by simpa using hinside x hx
  have hkept := h.place.not_mem_preorder h.outside
  rw [Block.preorder_eq_cons, List.mem_cons, not_or] at hkept
  obtain ⟨front, back, nested, q, hblocks, hexchange, hcommit⟩ := commit_of_target hids hfor hself hdummy.symm hnone
    htarget h.place.mem h.place.isContainer hkept.1 hkept.2
  rw [Block.insertChildren_eq h.place.children_eq] at hexchange
  exact ⟨front, back, nested, q, hblocks, hexchange, hcommit⟩

/-- A list that was committed could be committed. -/
theorem exists_committable {id : String} {index moved : Nat} (hids : d.program.ids.Nodup)
    (h : (d.commit hover snap dragging).1 = .committed id index moved) :
    ∃ holder parent before after, d.Committable hover snap dragging holder parent before after := by
  obtain ⟨holder, hfor, hdummy, hinside, htarget⟩ := of_commit_eq_committed h
  obtain ⟨parent, before, after, hplace, -, -⟩ := (target?_eq_some_iff hids).mp htarget
  refine ⟨holder, parent, before, after, (dummyFor?_eq_some_iff hids).mp hfor, ?_, hplace⟩
  rw [Block.findIn?_eq_find?_preorderIn, List.find?_eq_none] at hinside
  rw [Block.preorder_eq_cons, List.forall_mem_cons]
  exact ⟨hdummy.symm, fun x hx => by simpa using hinside x hx⟩

/-- With distinct ids a list is committed exactly when a dummy holds it and a target outside this dummy offers a place.
The dummy then leaves the top level and its list stands at the place in the same order, between the children that
were there; every other block keeps its fields, its position and its children, and the top level its order. -/
theorem committed_iff_and_splices (d : Diagram) (hids : d.program.ids.Nodup) (hover : String) (snap : SnapType)
    (dragging : String) :
    ((∃ id index moved, (d.commit hover snap dragging).1 = .committed id index moved) ↔
      ∃ holder parent before after, d.Committable hover snap dragging holder parent before after) ∧
    ∀ holder parent before after, d.Committable hover snap dragging holder parent before after →
      parent.children = before ++ after ∧
      ∃ front back nested q, d.program.blocks = front ++ holder :: back ∧
        Block.Exchange parent (parent.withChildren (before ++ holder.children ++ after)) nested (front ++ back)
          q.blocks ∧
        d.commit hover snap dragging =
          (.committed parent.id before.length holder.children.length, { d with program := q }) := by
  refine ⟨⟨?_, ?_⟩, fun holder parent before after h => ⟨h.place.children_eq, h.commit_eq hids⟩⟩
  · rintro ⟨id, index, moved, hcommit⟩
    exact exists_committable hids hcommit
  · -- what can be committed is committed, with the answer that the splice says
    rintro ⟨holder, parent, before, after, h⟩
    obtain ⟨-, -, -, q, -, -, hcommit⟩ := h.commit_eq hids
    exact ⟨parent.id, before.length, holder.children.length, by rw [hcommit]⟩

/-- A loop inside a once container, and two lists in dummies of which the second one starts with a container. -/
def twoHolders : Diagram :=
  .ofProgram ⟨[.container "o" none .once [.container "r" none (.loop 2) []],
    .container "h" none .dummy [.statement "a" none (.wait "true"), .statement "b" none (.log (.text "b"))],
    .container "k" none .dummy [.container "c" none (.branch "true")
      [.statement "y" none (.log (.text "y")), .statement "z" none (.log (.text "z"))]]]⟩ defaultSpawnPosition

/-- The list of the first dummy goes between two blocks that the second dummy holds. -/
theorem committed_iff_and_splices_twoHolders :
    twoHolders.program.ids.Nodup ∧
      ∃ holder parent before after, twoHolders.Committable "y" .append "a" holder parent before after ∧
        holder.children.map Block.id = ["a", "b"] ∧ before.map Block.id = ["y"] ∧ after.map Block.id = ["z"] ∧
        ∃ front back nested q, twoHolders.program.blocks = front ++ holder :: back ∧
          Block.Exchange parent (parent.withChildren (before ++ holder.children ++ after)) nested (front ++ back)
            q.blocks ∧
          twoHolders.commit "y" .append "a" = (.committed "c" 1 2, { twoHolders with program := q }) := by
  have hids : twoHolders.program.ids.Nodup := by decide
  let branch : Block := .container "c" none (.branch "true")
    [.statement "y" none (.log (.text "y")), .statement "z" none (.log (.text "z"))]
  -- behind the first child of the branch
  have hplace : twoHolders.program.Place "y" .append branch
      ([] ++ [.statement "y" none (.log (.text "y"))]) [.statement "z" none (.log (.text "z"))] :=
    .append (by simp [twoHolders, ofProgram, Program.preorder, Block.preorderIn, Block.preorder, branch]) rfl rfl
  have h : twoHolders.Committable "y" .append "a" (.container "h" none .dummy
      [.statement "a" none (.wait "true"), .statement "b" none (.log (.text "b"))]) branch _ _ :=
    ⟨⟨by simp [twoHolders, ofProgram], rfl, rfl⟩, by decide, hplace⟩
  exact ⟨hids, _, _, _, _, h, by decide, by decide, by decide,
    ((committed_iff_and_splices twoHolders hids "y" .append "a").2 _ _ _ _ h).2⟩

end Diagram

end Signalbox
