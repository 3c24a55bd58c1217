import Signalbox.Proofs.Block.Parent

/-!
# The place of a block

A block that is edited in place is left in its place, and with duplicate ids, or with equal blocks, neither its
id nor the block itself says which place that is. A `Gap` is a list of blocks with one place left open, in the
list itself or anywhere inside it, and `Gap.rank` counts the blocks in front of this place, in the order of the
document. The lookups by id and the edits by id are written down as four walks of their own; here each lookup and
its edit are seen to come to the same place.

Main results:

* `Block.Gap.eq_of_fill_eq`: a list has one place of a rank.
* `Block.meets_first` and `Block.meets_parent`: a lookup and its edit come to the first block with the id, and
  to the first block that has a child with the id.
-/

namespace Signalbox.Block

/-- A list of blocks with one place left open. -/
inductive Gap where
  | here (rest : List Block)
  | later (front : Block) (gap : Gap)
  | inside (id : String) (position : Option Position) (kind : ContainerKind) (gap : Gap) (rest : List Block)

namespace Gap

/-- The list with a block in the open place. -/
def fill (block : Block) : Gap → List Block
  | here rest => block :: rest
  | later front gap => front :: gap.fill block
  | inside id position kind gap rest => .container id position kind (gap.fill block) :: rest

/-- The number of blocks in front of the open place. -/
def rank : Gap → Nat
  | here _ => 0
  | later front gap => front.preorder.length + gap.rank
  | inside _ _ _ gap _ => gap.rank + 1

/-- The block in the open place is the one with its rank. -/
theorem getElem?_preorderIn_fill (gap : Gap) (block : Block) :
    (preorderIn (gap.fill block))[gap.rank]? = some block := by
  induction gap with
  | here rest =>
    rw [fill, preorderIn, preorder_eq_cons]
    rfl
  | later front gap ih =>
    rw [fill, preorderIn, rank, List.getElem?_append_right (Nat.le_add_right ..), Nat.add_sub_cancel_left, ih]
  | inside id position kind gap rest ih =>
    obtain ⟨hlt, -⟩ := List.getElem?_eq_some_iff.mp ih
    rw [fill, preorderIn, preorder, rank, List.cons_append, List.getElem?_cons_succ,
      List.getElem?_append_left hlt, ih]

theorem rank_lt (gap : Gap) (block : Block) : gap.rank < (preorderIn (gap.fill block)).length :=
  (List.getElem?_eq_some_iff.mp (gap.getElem?_preorderIn_fill block)).1

theorem length_preorder_pos (block : Block) : 0 < block.preorder.length := by
  rw [preorder_eq_cons]
  exact Nat.succ_pos _

/-- A list has one place of a rank, and one block there. -/
theorem eq_of_fill_eq {gap gap' : Gap} {block block' : Block} (hfill : gap.fill block = gap'.fill block')
    (hrank : gap.rank = gap'.rank) : gap = gap' ∧ block = block' := by
  -- both lists have the same head, and its length tells gaps of different kinds apart by their rank
  induction gap generalizing gap' with
  | here rest =>
    cases gap' with
    | here rest' =>
      obtain ⟨rfl, rfl⟩ := List.cons.inj hfill
      exact ⟨rfl, rfl⟩
    | later front gap' =>
      have hpos := length_preorder_pos front
      simp only [rank] at hrank
      omega
    | inside => exact absurd hrank.symm (Nat.succ_ne_zero _)
  | later front gap ih =>
    have hpos := length_preorder_pos front
    cases gap' with
    | here rest' =>
      simp only [rank] at hrank
      omega
    | later front' gap' =>
      obtain ⟨rfl, hrest⟩ := List.cons.inj hfill
      simp only [rank] at hrank
      obtain ⟨rfl, rfl⟩ := ih hrest (by omega)
      exact ⟨rfl, rfl⟩
    | inside id position kind gap' rest =>
      -- a place inside the container comes before all places behind it
      obtain ⟨rfl, -⟩ := List.cons.inj hfill
      have hlt := gap'.rank_lt block'
      simp only [rank, preorder, List.length_cons] at hrank
      omega
  | inside id position kind gap rest ih =>
    cases gap' with
    | here rest' => exact absurd hrank (Nat.succ_ne_zero _)
    | later front gap' =>
      obtain ⟨rfl, -⟩ := List.cons.inj hfill
      have hlt := gap.rank_lt block
      simp only [rank, preorder, List.length_cons] at hrank
      omega
    | inside id' position' kind' gap' rest' =>
      obtain ⟨hhead, rfl⟩ := List.cons.inj hfill
      obtain ⟨rfl, rfl, rfl, hchildren⟩ := Block.container.inj hhead
      obtain ⟨rfl, rfl⟩ := ih hchildren (Nat.succ.inj hrank)
      exact ⟨rfl, rfl⟩

end Gap

/-! ## The first place -/

/-- The open place is the first one in the list for a block that is wanted, and such a block stands there. -/
structure IsFirst (wanted : Block → Bool) (blocks : List Block) (block : Block) (gap : Gap) : Prop where
  fill_eq : gap.fill block = blocks
  rank_eq : gap.rank = (preorderIn blocks).findIdx wanted
  wanted_eq : wanted block = true

namespace IsFirst

variable {wanted : Block → Bool} {blocks children rest : List Block} {block front : Block} {gap : Gap}

/-- The first block is wanted. -/
theorem here (h : wanted block = true) (rest : List Block) : IsFirst wanted (block :: rest) block (.here rest) := by
  refine ⟨rfl, ?_, h⟩
  rw [preorderIn, preorder_eq_cons, List.cons_append, List.findIdx_cons, h]
  rfl

/-- No block in the first one is wanted, and the first wanted one is in the rest. -/
theorem later (hfront : ∀ other ∈ front.preorder, wanted other = false) (h : IsFirst wanted rest block gap) :
    IsFirst wanted (front :: rest) block (.later front gap) := by
  refine ⟨by rw [Gap.fill, h.fill_eq], ?_, h.wanted_eq⟩
  have hlength : front.preorder.findIdx wanted = front.preorder.length := List.findIdx_eq_length.mpr hfront
  rw [preorderIn, List.findIdx_append, hlength, if_neg (Nat.lt_irrefl _), Gap.rank, h.rank_eq, Nat.add_comm]

/-- The first block is not wanted, and the first wanted one is inside it. -/
theorem inside {id : String} {position : Option Position} {kind : ContainerKind}
    (houter : wanted (.container id position kind children) = false) (h : IsFirst wanted children block gap)
    (rest : List Block) :
    IsFirst wanted (.container id position kind children :: rest) block (.inside id position kind gap rest) := by
  refine ⟨by rw [Gap.fill, h.fill_eq], ?_, h.wanted_eq⟩
  have hlt := gap.rank_lt block
  rw [h.fill_eq, h.rank_eq] at hlt
  rw [preorderIn, preorder, List.cons_append, List.findIdx_cons, houter, cond_false, List.findIdx_append, if_pos hlt,
    Gap.rank, h.rank_eq]

end IsFirst

/-! ## Lookups and edits -/

/-- A lookup in a list of blocks and an edit in place go to the same block, the first one that is wanted. There is
one place for it, and the edit puts what it makes of the block there and leaves everything around it as it is. -/
structure Meets (wanted : Block → Bool) (blocks : List Block) (found? : Option Block)
    (edited? : (α : Type) → (Block → α × Block) → Option (α × List Block)) : Prop where
  nowhere : found? = none → ∀ α edit, edited? α edit = none
  somewhere : ∀ block, found? = some block → ∃! gap, IsFirst wanted blocks block gap ∧
    ∀ α edit, edited? α edit = some ((edit block).1, gap.fill (edit block).2)

namespace Meets

variable {wanted : Block → Bool} {blocks children rest : List Block} {found? foundInside? foundLater? : Option Block}
  {edited? editedInside? editedLater? : (α : Type) → (Block → α × Block) → Option (α × List Block)}

theorem of_none (hfound : found? = none) (hedited : ∀ α edit, edited? α edit = none) :
    Meets wanted blocks found? edited? :=
  ⟨fun _ => hedited, fun _ hsome => absurd (hfound.symm.trans hsome) (Option.some_ne_none _).symm⟩

/-- The block that is found is edited in its place. -/
theorem of_some {block : Block} {gap : Gap} (hfound : found? = some block) (hgap : IsFirst wanted blocks block gap)
    (hedited : ∀ α edit, edited? α edit = some ((edit block).1, gap.fill (edit block).2)) :
    Meets wanted blocks found? edited? := by
  refine ⟨fun hnone => absurd (hfound.symm.trans hnone) (Option.some_ne_none _), fun other hother => ?_⟩
  obtain rfl := Option.some.inj (hfound.symm.trans hother)
  refine ⟨gap, ⟨hgap, hedited⟩, ?_⟩
  -- another place for the edit would have the same rank in the same list
  rintro gap' ⟨hgap', -⟩
  have hfill : gap'.fill block = gap.fill block := hgap'.fill_eq.trans hgap.fill_eq.symm
  exact (Gap.eq_of_fill_eq hfill (hgap'.rank_eq.trans hgap.rank_eq.symm)).1

/-- The walk ends at the block at the head. -/
theorem here {block : Block} (hwanted : wanted block = true) (hfound : found? = some block)
    (hedited : ∀ α edit, edited? α edit = some ((edit block).1, (edit block).2 :: rest)) :
    Meets wanted (block :: rest) found? edited? :=
  of_some hfound (.here hwanted rest) hedited

/-- The walk goes past the block at the head. -/
theorem later {front : Block} (hfront : ∀ other ∈ front.preorder, wanted other = false)
    (h : Meets wanted rest foundLater? editedLater?) (hfound : found? = foundLater?)
    (hedited : ∀ α edit, edited? α edit = (editedLater? α edit).map fun p => (p.1, front :: p.2)) :
    Meets wanted (front :: rest) found? edited? := by
  cases hlater : foundLater? with
  | none =>
    refine of_none (hfound.trans hlater) fun α edit => ?_
    rw [hedited, h.nowhere hlater, Option.map_none]
  | some block =>
    obtain ⟨gap, ⟨hgap, hgapEdited⟩, -⟩ := h.somewhere block hlater
    refine of_some (hfound.trans hlater) (hgap.later hfront) fun α edit => ?_
    rw [hedited, hgapEdited, Option.map_some, Gap.fill]

/-- The walk goes into the container at the head, and past it when it comes to nothing there. -/
theorem container {own : String} {position : Option Position} {kind : ContainerKind}
    (houter : wanted (.container own position kind children) = false)
    (hunwanted : foundInside? = none → ∀ other ∈ preorderIn children, wanted other = false)
    (hinside : Meets wanted children foundInside? editedInside?) (hlater : Meets wanted rest foundLater? editedLater?)
    (hfound : found? = foundInside?.or foundLater?)
    (hedited : ∀ α edit, edited? α edit =
      ((editedInside? α edit).map fun p => (p.1, .container own position kind p.2 :: rest)).or
        ((editedLater? α edit).map fun p => (p.1, .container own position kind children :: p.2))) :
    Meets wanted (.container own position kind children :: rest) found? edited? := by
  cases hfoundInside : foundInside? with
  | none =>
    -- nothing in the container is wanted, so it is a head like any other that the walk goes past
    have hfront : ∀ other ∈ (Block.container own position kind children).preorder, wanted other = false := by
      rw [preorder, List.forall_mem_cons]
      exact ⟨houter, hunwanted hfoundInside⟩
    refine hlater.later hfront (by rw [hfound, hfoundInside, Option.none_or]) fun α edit => ?_
    rw [hedited, hinside.nowhere hfoundInside, Option.map_none, Option.none_or]
  | some block =>
    obtain ⟨gap, ⟨hgap, hgapEdited⟩, -⟩ := hinside.somewhere block hfoundInside
    refine of_some (by rw [hfound, hfoundInside, Option.some_or]) (hgap.inside houter rest) fun α edit => ?_
    rw [hedited, hgapEdited, Option.map_some, Option.some_or, Gap.fill]

end Meets

variable {α : Type} {id : String} {edit : Block → α × Block}

/-- The lookup by id, and the edit of what it finds. -/
theorem meets_first (id : String) (blocks : List Block) :
    Meets (·.id = id) blocks (findIn? id blocks) (fun _ edit => editFirstIn? id edit blocks) := by
  induction blocks using forest_induction with
  | nil => exact .of_none rfl fun _ _ => rfl
  | statement own position kind rest ih =>
    by_cases hid : own = id
    · refine .here (decide_eq_true hid) ?_ fun α edit => ?_
      · rw [findIn?, find?, if_pos hid, Option.some_or]
      · rw [editFirstIn?, editFirst?, if_pos hid]
    · refine ih.later ?_ ?_ fun α edit => ?_
      · rw [preorder, List.forall_mem_singleton]
        exact decide_eq_false hid
      · rw [findIn?, find?, if_neg hid, Option.none_or]
      · rw [editFirstIn?, editFirst?, if_neg hid]
        cases editFirstIn? id edit rest <;> rfl
  | container own position kind children rest ihChildren ihRest =>
    -- a container is met before its children, these before its siblings
    by_cases hid : own = id
    · refine .here (decide_eq_true hid) ?_ fun α edit => ?_
      · rw [findIn?, find?, if_pos hid, Option.some_or]
      · rw [editFirstIn?, editFirst?, if_pos hid]
    · refine .container (decide_eq_false hid) ?_ ihChildren ihRest ?_ fun α edit => ?_
      · rw [findIn?_eq_find?_preorderIn, List.find?_eq_none]
        exact fun hnone other hother => Bool.eq_false_iff.mpr (hnone other hother)
      · rw [findIn?, find?, if_neg hid]
      · rw [editFirstIn?, editFirst?, if_neg hid]
        cases editFirstIn? id edit children <;> cases editFirstIn? id edit rest <;> rfl

/-- Where no parent is found, nothing inside the list has a child with the id. -/
theorem hasChild_eq_false_of_parentIn? {blocks : List Block} (htop : hasChild id blocks = false)
    (h : parentIn? id blocks = none) : ∀ block ∈ preorderIn blocks, hasChild id block.children = false := by
  intro block hblock
  rw [Bool.eq_false_iff, Ne, hasChild_children_iff]
  intro hchild
  have hmem : id ∈ idsIn blocks :=
    (idsIn_perm blocks).mem_iff.mpr (List.mem_append_right _ (List.mem_flatMap.mpr ⟨block, hblock, hchild⟩))
  obtain ⟨parent, hparent⟩ := exists_parentIn?_eq_some hmem htop
  exact absurd (h.symm.trans hparent) (Option.some_ne_none parent).symm

/-- The lookup of a parent, and the edit of what it finds. -/
theorem meets_parent (id : String) (blocks : List Block) :
    Meets (hasChild id ·.children) blocks (parentIn? id blocks) (fun _ edit => editParentIn? id edit blocks) := by
  induction blocks using forest_induction with
  | nil => exact .of_none rfl fun _ _ => rfl
  | statement own position kind rest ih =>
    -- a block with the id itself has no parent in its own tree
    by_cases hid : (Block.statement own position kind).id = id
    · refine .of_none ?_ fun α edit => ?_
      · rw [parentIn?, if_pos hid]
      · rw [editParentIn?, if_pos hid]
    · refine ih.later ?_ ?_ fun α edit => ?_
      · rw [preorder, List.forall_mem_singleton]
        rfl
      · rw [parentIn?, if_neg hid, parent?, Option.none_or]
      · rw [editParentIn?, if_neg hid, editParent?]
        cases editParentIn? id edit rest <;> rfl
  | container own position kind children rest ihChildren ihRest =>
    by_cases hid : (Block.container own position kind children).id = id
    · -- a block with the id itself ends the search
      refine .of_none ?_ fun α edit => ?_
      · rw [parentIn?, if_pos hid]
      · rw [editParentIn?, if_pos hid]
    · -- the block is the parent, or the search goes into its children and then to its siblings
      by_cases hhas : hasChild id children = true
      · refine .here hhas ?_ fun α edit => ?_
        · rw [parentIn?, if_neg hid, parent?, if_pos hhas, Option.some_or]
        · rw [editParentIn?, if_neg hid, editParent?, if_pos hhas]
      · have hhas' : hasChild id children = false := Bool.eq_false_iff.mpr hhas
        refine .container hhas' (hasChild_eq_false_of_parentIn? hhas') ihChildren ihRest ?_ fun α edit => ?_
        · rw [parentIn?, if_neg hid, parent?, if_neg hhas]
        · rw [editParentIn?, if_neg hid, editParent?, if_neg hhas]
          cases editParentIn? id edit children <;> cases editParentIn? id edit rest <;> rfl

end Signalbox.Block
