import Mathlib.Algebra.Order.Group.Multiset
import Mathlib.Tactic.Abel
import Signalbox.Editor.Diagram
import Signalbox.Proofs.Block.Exchange
import Signalbox.Proofs.Program.Fresh
import Signalbox.Proofs.Program.Rules

/-!
# What an edit does to the nodes

An edit of a diagram moves whole lists of blocks about, yet it touches few nodes: a split brings one new
dummy, a commit takes one away, and besides at most one node looks different afterwards. `Program.Trades` says
which nodes an edit takes and which it gives for them.

Main results: `Diagram.setPosition_cases`, `Diagram.split_cases`, `Diagram.commit_cases`,
`Diagram.addBlock_trades` and `Diagram.updateBlock_trades`, one for each edit of a diagram.
-/

namespace Signalbox

/-- The nodes `gone` give way to the nodes `come`; all others stay. -/
def Program.Trades (p p' : Program) (gone come : List Node) : Prop :=
  ∃ kept : Multiset Node, (p.nodes : Multiset Node) = gone + kept ∧ (p'.nodes : Multiset Node) = come + kept

namespace Program.Trades

variable {p p' : Program} {gone come : List Node}

theorem symm (h : p.Trades p' gone come) : p'.Trades p come gone := by
  obtain ⟨kept, hp, hp'⟩ := h
  exact ⟨kept, hp', hp⟩

/-- What goes was there. -/
theorem mem_of_mem_gone (h : p.Trades p' gone come) {n : Node} (hn : n ∈ gone) : n ∈ p.nodes := by
  obtain ⟨kept, hp, -⟩ := h
  rw [← Multiset.mem_coe, hp]
  exact Multiset.mem_add.mpr (Or.inl (Multiset.mem_coe.mpr hn))

/-- What holds of every node still does when it holds of the nodes that come. -/
theorem forall_nodes {P : Node → Prop} (h : p.Trades p' gone come) (hp : ∀ n ∈ p.nodes, P n)
    (hcome : (∀ n ∈ gone, P n) → ∀ n ∈ come, P n) : ∀ n ∈ p'.nodes, P n := by
  have hgone : ∀ n ∈ gone, P n := fun n hn => hp n (h.mem_of_mem_gone hn)
  obtain ⟨kept, hold, hnew⟩ := h
  intro n hn
  rw [← Multiset.mem_coe, hnew, Multiset.mem_add] at hn
  rcases hn with hn | hn
  · exact hcome hgone n (Multiset.mem_coe.mp hn)
  · refine hp n (Multiset.mem_coe.mp ?_)
    rw [hold]
    exact Multiset.mem_add.mpr (Or.inr hn)

/-- The ids change by those of the nodes that have no counterpart among the nodes that go. -/
theorem ids_perm {extra : List String} (h : p.Trades p' gone come)
    (hids : (come.map Node.id).Perm (extra ++ gone.map Node.id)) : p'.ids.Perm (extra ++ p.ids) := by
  obtain ⟨kept, hold, hnew⟩ := h
  -- the ids of the nodes that stay are the same on both sides
  rw [ids_eq_map_nodes, ids_eq_map_nodes, ← Multiset.coe_eq_coe, ← Multiset.coe_add,
    ← Multiset.map_coe, ← Multiset.map_coe, hold, hnew, Multiset.map_add, Multiset.map_add,
    ← add_assoc, Multiset.map_coe, Multiset.map_coe, Multiset.coe_add]
  exact congrArg (· + _) (Multiset.coe_eq_coe.mpr hids)

/-- Ids stay distinct when an edit brings, besides the old ones, only new ones. -/
theorem ids_nodup (h : p.Trades p' gone come) (extra : List String)
    (hids : (come.map Node.id).Perm (extra ++ gone.map Node.id)) (hextra : Block.NewIds p.ids extra)
    (hnodup : p.ids.Nodup) : p'.ids.Nodup := by
  rw [(h.ids_perm hids).nodup_iff]
  exact List.nodup_append'.mpr ⟨hextra.nodup, hnodup, fun x hx hx' => hextra.unseen x hx hx'⟩

/-- Ids stay distinct when an edit only takes ids away. -/
theorem ids_nodup_of_gone (h : p.Trades p' gone come) (extra : List String)
    (hids : (gone.map Node.id).Perm (extra ++ come.map Node.id)) (hnodup : p.ids.Nodup) :
    p'.ids.Nodup :=
  (List.nodup_append'.mp ((h.symm.ids_perm hids).nodup_iff.mp hnodup)).2.1

end Program.Trades

namespace Block

/-! ## Blocks with other children -/

/-- Only a container has children. -/
theorem isContainer_of_children_ne_nil {block : Block} (h : block.children ≠ []) :
    block.isContainer = true := by
  cases block with
  | container => rfl
  | statement => exact absurd rfl h

/-- A container has the children that it is given. -/
theorem children_withChildren {block : Block} (h : block.isContainer = true) (list : List Block) :
    (block.withChildren list).children = list := by
  cases block with
  | container => rfl
  | statement => exact absurd h Bool.false_ne_true

/-- Of the node, other children change only whether there are any. -/
theorem node_withChildren {block : Block} (h : block.isContainer = true) (list : List Block)
    (nested : Bool) :
    (block.withChildren list).node nested = { block.node nested with isEmpty := list.isEmpty } := by
  cases block with
  | container => rfl
  | statement => exact absurd h Bool.false_ne_true

/-- A block is a dummy by its own fields. -/
theorem isDummy_iff (block : Block) : block.isDummy = true ↔ block.own = .container .dummy := by
  rcases block with ⟨id, position, kind, children⟩ | ⟨id, position, kind⟩
  · cases kind <;> simp [isDummy, own]
  · simp [isDummy, own]

/-- The nodes of two lists of blocks that differ in one place. -/
theorem Exchange.coe_nodesIn {old new : Block} {nested : Bool} {blocks blocks' : List Block}
    (h : Exchange old new nested blocks blocks') :
    ∃ kept : Multiset Node,
      (Block.nodesIn false blocks : Multiset Node) =
        (old.node nested ::ₘ ↑(Block.nodesIn true old.children)) + kept ∧
      (Block.nodesIn false blocks' : Multiset Node) =
        (new.node nested ::ₘ ↑(Block.nodesIn true new.children)) + kept := by
  obtain ⟨before, after, hold, hnew⟩ := h.nodesIn false
  refine ⟨(before : Multiset Node) + after, ?_, ?_⟩
  · rw [hold, Bool.false_or, nodes_eq_cons, ← Multiset.coe_add, ← Multiset.coe_add,
      ← Multiset.cons_coe, add_comm (before : Multiset Node), add_assoc]
  · rw [hnew, Bool.false_or, nodes_eq_cons, ← Multiset.coe_add, ← Multiset.coe_add,
      ← Multiset.cons_coe, add_comm (before : Multiset Node), add_assoc]

theorem coe_nodesIn_append (nested : Bool) (front back : List Block) :
    (nodesIn nested (front ++ back) : Multiset Node) = nodesIn nested front + nodesIn nested back := by
  rw [nodesIn_append, Multiset.coe_add]

theorem coe_nodesIn_cons (nested : Bool) (block : Block) (rest : List Block) :
    (nodesIn nested (block :: rest) : Multiset Node) =
      (block.node nested ::ₘ ↑(nodesIn true block.children)) + nodesIn nested rest := by
  rw [nodesIn_cons, ← Multiset.cons_coe, ← Multiset.coe_add, Multiset.cons_add]

/-! ## Top-level blocks -/

/-- The first block with an id is taken out of its place. -/
theorem removeFrom?_eq_some {id : String} {blocks rest : List Block} {block : Block}
    (h : removeFrom? id blocks = some (block, rest)) :
    ∃ front back, blocks = front ++ block :: back ∧ rest = front ++ back ∧ block.id = id := by
  induction blocks generalizing rest with
  | nil => simp [removeFrom?] at h
  | cons head tail ih =>
    rw [removeFrom?] at h
    -- the block is the first one, or it is looked for in the rest
    by_cases hid : head.id = id
    · rw [if_pos hid] at h
      obtain ⟨rfl, rfl⟩ : _ ∧ _ := by simpa using h
      exact ⟨[], tail, rfl, rfl, hid⟩
    · rw [if_neg hid] at h
      obtain ⟨⟨removed, others⟩, htail, heq⟩ := Option.map_eq_some_iff.mp h
      obtain ⟨rfl, rfl⟩ : _ ∧ _ := by simpa using heq
      obtain ⟨front, back, rfl, rfl, hremoved⟩ := ih htail
      exact ⟨head :: front, back, rfl, rfl, hremoved⟩

/-- A block that was taken out of a list stands there again when it is inserted at its place. -/
theorem insertIdx_of_removeFrom? {id : String} {blocks rest : List Block} {block : Block}
    (h : removeFrom? id blocks = some (block, rest)) :
    ∃ place, indexIn? id blocks = some place ∧ rest.insertIdx place block = blocks := by
  induction blocks generalizing rest with
  | nil => simp [removeFrom?] at h
  | cons head tail ih =>
    rw [removeFrom?] at h
    rw [indexIn?, List.findIdx?_cons]
    -- the block is the first one, or its place is one further back than in the tail
    by_cases hid : head.id = id
    · rw [if_pos hid] at h
      obtain ⟨rfl, rfl⟩ : _ ∧ _ := by simpa using h
      exact ⟨0, by simp [hid], rfl⟩
    · rw [if_neg hid] at h
      obtain ⟨⟨removed, others⟩, htail, heq⟩ := Option.map_eq_some_iff.mp h
      obtain ⟨rfl, rfl⟩ : _ ∧ _ := by simpa using heq
      obtain ⟨place, hplace, rfl⟩ := ih htail
      refine ⟨place + 1, ?_, rfl⟩
      rw [indexIn?] at hplace
      simp [hid, hplace]

/-- A block that was emptied is as it was when its children are put back. -/
theorem withChildren_withChildren_children (block : Block) (others : List Block) :
    (block.withChildren others).withChildren block.children = block := by
  cases block <;> rfl

theorem node_withPosition (block : Block) (position : Position) (nested : Bool) :
    (block.withPosition position).node nested = { block.node nested with position := some position } := by
  cases block <;> rfl

theorem children_withPosition (block : Block) (position : Position) :
    (block.withPosition position).children = block.children := by
  cases block <;> rfl

/-- The children of a block in front of the first with an id. -/
def childrenBefore (id : String) (block : Block) : List Block :=
  block.children.takeWhile (·.id ≠ id)

/-- The children of a block from the first with an id on. -/
def childrenFrom (id : String) (block : Block) : List Block :=
  block.children.dropWhile (·.id ≠ id)

theorem childrenBefore_append_childrenFrom (id : String) (block : Block) :
    block.childrenBefore id ++ block.childrenFrom id = block.children :=
  List.takeWhile_append_dropWhile

/-- Behind what is in front of a child with an id stands such a child. -/
theorem exists_dropWhile_eq_cons {id : String} {blocks : List Block} (h : hasChild id blocks = true) :
    ∃ child rest, blocks.dropWhile (·.id ≠ id) = child :: rest ∧ child.id = id := by
  induction blocks with
  | nil => exact absurd h Bool.false_ne_true
  | cons head tail ih =>
    by_cases hid : head.id = id
    · exact ⟨head, tail, by rw [List.dropWhile_cons_of_neg (by simpa using hid)], hid⟩
    · have htail : hasChild id tail = true := by
        simpa [hasChild, hid] using h
      obtain ⟨child, rest, hdrop, hchild⟩ := ih htail
      exact ⟨child, rest, by rw [List.dropWhile_cons_of_pos (by simpa using hid), hdrop], hchild⟩

/-- The cut is in front of a child with the id. -/
theorem exists_childrenFrom_eq_cons {id : String} {block : Block} (h : hasChild id block.children = true) :
    ∃ child rest, block.childrenFrom id = child :: rest ∧ child.id = id :=
  exists_dropWhile_eq_cons h

end Block

/-- A detached list is the end of the children of one block, which keeps the others. -/
theorem Program.detach_eq_ok {p p' : Program} {id : String} {detached : List Block}
    (h : p.detach id = .ok (detached, p')) :
    ∃ parent nested, Block.hasChild id parent.children = true ∧ detached = parent.childrenFrom id ∧
      Block.Exchange parent (parent.withChildren (parent.childrenBefore id)) nested p.blocks p'.blocks := by
  rw [Program.detach] at h
  split_ifs at h with htop
  cases hedit : Block.editParentIn? id (Block.cutChildren id) p.blocks with
  | none => rw [hedit] at h; exact absurd h (by simp)
  | some found =>
    rw [hedit] at h
    obtain ⟨rfl, rfl⟩ : _ ∧ _ := by simpa using h
    obtain ⟨parent, nested, -, hhas, hanswer, hexchange⟩ := Block.editParentIn?_eq_some hedit
    exact ⟨parent, nested, hhas, hanswer.symm, hexchange⟩

namespace Diagram

/-! ## Moving a top-level block -/

/-- A block that is moved about gives its node another position, and nothing else changes. -/
theorem setPosition_cases (d : Diagram) (id : String) (position : Position) :
    (d.setPosition id position).2 = d ∨
      ∃ n : Node, n.nested = false ∧
        d.program.Trades (d.setPosition id position).2.program [n]
          [{ n with position := some position }] := by
  unfold setPosition
  cases hremove : Block.removeFrom? id d.program.blocks with
  | none => exact Or.inl rfl
  | some found =>
    obtain ⟨block, rest⟩ := found
    obtain ⟨front, back, hblocks, rfl, -⟩ := Block.removeFrom?_eq_some hremove
    -- the block goes to the end of the list, everything else is kept
    refine Or.inr ⟨block.node false, rfl, ↑(Block.nodesIn true block.children) +
      (↑(Block.nodesIn false front) + ↑(Block.nodesIn false back)), ?_, ?_⟩
    · rw [Program.nodes, hblocks, Block.coe_nodesIn_append, Block.coe_nodesIn_cons,
        Multiset.coe_singleton, ← Multiset.singleton_add]
      abel
    · show (Block.nodesIn false ((front ++ back) ++ [block.withPosition position]) : Multiset Node) = _
      rw [Block.coe_nodesIn_append, Block.coe_nodesIn_append, Block.coe_nodesIn_cons,
        Block.node_withPosition, Block.children_withPosition, Multiset.coe_singleton,
        ← Multiset.singleton_add, Block.nodesIn, Multiset.coe_nil]
      abel

/-! ## Splitting a list off -/

/-- A dummy that is found stands at the top level and has children. -/
theorem dummyFor?_eq_some {d : Diagram} {id : String} {dummy : Block} (h : d.dummyFor? id = some dummy) :
    dummy ∈ d.program.blocks ∧ dummy.own = .container .dummy ∧ dummy.children.isEmpty = false := by
  have hmem := List.mem_of_find?_eq_some h
  have hprop := List.find?_some h
  rw [Bool.and_eq_true] at hprop
  refine ⟨hmem, (Block.isDummy_iff dummy).mp hprop.1, ?_⟩
  cases hchildren : dummy.children with
  | nil => rw [hchildren] at hprop; exact absurd hprop.2 (by simp)
  | cons child rest => rfl

/-- A dummy of the program whose first child has the id is found. -/
theorem dummyFor?_ne_none {d : Diagram} {dummy child : Block} {rest : List Block}
    (hmem : dummy ∈ d.program.blocks) (hdummy : dummy.own = .container .dummy)
    (hchildren : dummy.children = child :: rest) : d.dummyFor? child.id ≠ none := by
  intro hnone
  have hnot := List.find?_eq_none.mp hnone dummy hmem
  rw [(Block.isDummy_iff dummy).mpr hdummy, hchildren] at hnot
  exact absurd hnot (by simp)

/-- The node of the dummy that a split or an addition brings. -/
def newDummy (d : Diagram) (position : Position) : Node :=
  ⟨false, dummyName (d.program.nextDummy d.dummyCount), some position, .container .dummy, false⟩

/-- A split brings a dummy, and the parent that the list is taken from is the only other node to look
different. It may be left without children, but not if it is a dummy of the program. -/
theorem split_cases (d : Diagram) (id : String) (position : Position) :
    (d.split id position).2.program = d.program ∨
      ∃ (parent : Node) (isEmpty : Bool),
        d.program.Trades (d.split id position).2.program [parent]
          [d.newDummy position, { parent with isEmpty }] ∧
        (isEmpty = true → parent.nested = false → parent.own ≠ .container .dummy) := by
  unfold split
  cases hfor : d.dummyFor? id with
  | some dummy => exact Or.inl rfl
  | none =>
    simp only [createDummy]
    cases hdetach : d.program.detach id with
    | error e => exact Or.inl rfl
    | ok result =>
      obtain ⟨detached, p⟩ := result
      obtain ⟨parent, nested, hhas, rfl, hexchange⟩ := Program.detach_eq_ok hdetach
      obtain ⟨kept, hold, hnew⟩ := hexchange.coe_nodesIn
      obtain ⟨child, rest, hfrom, hid⟩ := Block.exists_childrenFrom_eq_cons hhas
      have hcontainer : parent.isContainer = true :=
        Block.isContainer_of_children_ne_nil (Block.children_ne_nil_of_hasChild hhas)
      -- the children on both sides of the cut are kept, and so is everything outside the parent
      refine Or.inr ⟨parent.node nested, (parent.childrenBefore id).isEmpty,
        ⟨↑(Block.nodesIn true (parent.childrenBefore id)) +
          ↑(Block.nodesIn true (parent.childrenFrom id)) + kept, ?_, ?_⟩, ?_⟩
      · rw [Program.nodes, hold, ← Block.childrenBefore_append_childrenFrom id parent,
          Block.coe_nodesIn_append, Multiset.coe_singleton, ← Multiset.singleton_add]
        abel
      · -- the new dummy holds the children from the cut on
        rw [Block.node_withChildren hcontainer, Block.children_withChildren hcontainer] at hnew
        show (Block.nodesIn false (p.blocks ++ [_]) : Multiset Node) = _
        rw [Block.coe_nodesIn_append, hnew, Block.coe_nodesIn_cons, Block.nodesIn, Multiset.coe_nil]
        simp only [Block.withChildren, Block.children, Block.node, Block.id, Block.position, Block.own,
          hfrom, List.isEmpty_cons, newDummy, ← Multiset.cons_coe, ← Multiset.singleton_add,
          Multiset.coe_nil]
        abel
      · intro hempty hnested hdummy
        obtain rfl : nested = false := hnested
        -- with nothing in front of it the block is the first child of a dummy, and no dummy has it
        have hchildren : parent.children = child :: rest := by
          rw [← Block.childrenBefore_append_childrenFrom id parent, List.isEmpty_iff.mp hempty, hfrom]
          rfl
        have hsome := dummyFor?_ne_none hexchange.mem_of_not_nested hdummy hchildren
        rw [hid] at hsome
        exact hsome hfor

/-! ## Committing a list -/

end Diagram

namespace Program

variable {p : Program} {id : String}

/-- The first top-level block with an id is taken out, and it can be put back. -/
theorem takeOut?_of_removeFrom? {holder : Block} {rest : List Block}
    (h : Block.removeFrom? id p.blocks = some (holder, rest)) :
    ∃ taken, p.takeOut? id = some taken ∧ taken.list = holder.children ∧ taken.rest = rest ∧
      taken.putBack = p := by
  obtain ⟨place, hplace, hinsert⟩ := Block.insertIdx_of_removeFrom? h
  refine ⟨⟨place, holder.withChildren [], holder.children, rest⟩, ?_, rfl, rfl, ?_⟩
  · simp only [takeOut?, hplace, h, Option.bind_eq_bind, Option.bind_some, Option.pure_def]
  · rw [TakenOut.putBack, Block.withChildren_withChildren_children, hinsert]

theorem takeOut?_eq_none (h : Block.removeFrom? id p.blocks = none) : p.takeOut? id = none := by
  cases hplace : Block.indexIn? id p.blocks <;>
    simp only [takeOut?, hplace, h, Option.bind_eq_bind, Option.bind_some, Option.bind_none]

end Program

namespace Diagram

/-- A commit that changes the program takes the dummy out and puts its children into the target. -/
theorem commit_eq (d : Diagram) (hover : String) (snap : SnapType) (dragging : String) :
    (d.commit hover snap dragging).2 = d ∨
      ∃ dummy parent index holder rest p,
        d.dummyFor? dragging = some dummy ∧ d.target? hover snap = some (parent, index) ∧
        Block.removeFrom? dummy.id d.program.blocks = some (holder, rest) ∧
        insertAt? ⟨rest⟩ parent index holder.children = some p ∧
        d.commit hover snap dragging =
          (.committed parent index holder.children.length, { d with program := p }) := by
  unfold commit
  cases hfor : d.dummyFor? dragging with
  | none => exact Or.inl rfl
  | some dummy =>
    simp only
    -- a list is put neither onto itself nor into itself
    split_ifs with hself hinside
    · exact Or.inl rfl
    · exact Or.inl rfl
    -- from here on the list has a place to go to, and then it is taken out for it
    cases htarget : d.target? hover snap with
    | none => exact Or.inl rfl
    | some place =>
      obtain ⟨parent, index⟩ := place
      cases hremove : Block.removeFrom? dummy.id d.program.blocks with
      | none => exact Or.inl (by simp only [Program.takeOut?_eq_none hremove])
      | some found =>
        obtain ⟨holder, rest⟩ := found
        obtain ⟨taken, htaken, hlist, rfl, hback⟩ := Program.takeOut?_of_removeFrom? hremove
        simp only [htaken, hlist]
        cases hinsert : insertAt? ⟨taken.rest⟩ parent index holder.children with
        | none =>
          -- the dummy has been taken out already, and it is put back
          exact Or.inl (by simp only [hback])
        | some p => exact Or.inr ⟨dummy, parent, index, holder, taken.rest, p, rfl, rfl, hremove, hinsert, rfl⟩

/-- A list that is inserted goes among the children of a container. -/
theorem insertAt?_eq_some {p p' : Program} {parent : String} {index : Nat} {list : List Block}
    (h : insertAt? p parent index list = some p') :
    ∃ block nested, Block.findIn? parent p.blocks = some block ∧ block.isContainer = true ∧
      Block.Exchange block (block.insertChildren index list) nested p.blocks p'.blocks := by
  unfold insertAt? at h
  split at h
  next blocks hedit =>
    obtain ⟨block, nested, hfind, -, hcontainer, hexchange⟩ := Block.editFirstIn?_eq_some hedit
    obtain rfl := Option.some.inj h
    exact ⟨block, nested, hfind, hcontainer, hexchange⟩
  next => exact absurd h (by simp)

/-- A top-level block whose children go into a target gives way to them, and the target is the only other node
to look different. -/
theorem trades_of_insertAt? {p p' : Program} {id parent : String} {index : Nat} {holder : Block}
    {rest : List Block} (hremove : Block.removeFrom? id p.blocks = some (holder, rest))
    (hinsert : insertAt? ⟨rest⟩ parent index holder.children = some p') :
    ∃ (target : Node) (isEmpty : Bool), (isEmpty = true → holder.children = []) ∧
      p.Trades p' [holder.node false, target] [{ target with isEmpty }] := by
  obtain ⟨front, back, hblocks, rfl, -⟩ := Block.removeFrom?_eq_some hremove
  obtain ⟨block, nested, -, hcontainer, hexchange⟩ := insertAt?_eq_some hinsert
  obtain ⟨kept, hold, hnew⟩ := hexchange.coe_nodesIn
  rw [Block.coe_nodesIn_append] at hold
  rw [Block.insertChildren, Block.node_withChildren hcontainer,
    Block.children_withChildren hcontainer] at hnew
  -- the list goes between two parts of the old children
  have hsplit : (Block.nodesIn true block.children : Multiset Node) =
      Block.nodesIn true (block.children.take index) + Block.nodesIn true (block.children.drop index) := by
    rw [← Block.coe_nodesIn_append, List.take_append_drop]
  refine ⟨block.node nested,
    (block.children.take index ++ holder.children ++ block.children.drop index).isEmpty, fun hempty => ?_,
    ↑(Block.nodesIn true holder.children) + ↑(Block.nodesIn true block.children) + kept, ?_, ?_⟩
  · exact (List.append_eq_nil_iff.mp (List.append_eq_nil_iff.mp (List.isEmpty_iff.mp hempty)).1).2
  · rw [Program.nodes, hblocks, Block.coe_nodesIn_append, Block.coe_nodesIn_cons, add_left_comm, hold,
      ← Multiset.cons_coe, Multiset.coe_singleton, ← Multiset.singleton_add, ← Multiset.singleton_add,
      ← Multiset.singleton_add]
    abel
  · rw [Program.nodes, hnew, Block.coe_nodesIn_append, Block.coe_nodesIn_append, hsplit,
      Multiset.coe_singleton, ← Multiset.singleton_add]
    abel

/-- When ids are distinct, the block that a commit takes out is the dummy that holds the list. -/
theorem removeFrom?_dummy {d : Diagram} (hids : d.program.ids.Nodup) {id : String} {dummy holder : Block}
    {rest : List Block} (hfor : d.dummyFor? id = some dummy)
    (hremove : Block.removeFrom? dummy.id d.program.blocks = some (holder, rest)) : holder = dummy := by
  obtain ⟨front, back, hblocks, -, hid⟩ := Block.removeFrom?_eq_some hremove
  -- both are blocks of the program, and they share an id
  refine Program.eq_of_id_eq hids ?_ (dummyFor?_eq_some hfor).1 hid
  rw [hblocks]
  simp

/-- A commit takes a dummy, and the parent that its children go to is the only other node to look
different: it has children now. -/
theorem commit_cases (d : Diagram) (hids : d.program.ids.Nodup) (hover : String) (snap : SnapType)
    (dragging : String) :
    (d.commit hover snap dragging).2.program = d.program ∨
      ∃ holder parent : Node, holder.own = .container .dummy ∧
        d.program.Trades (d.commit hover snap dragging).2.program [holder, parent]
          [{ parent with isEmpty := false }] := by
  rcases d.commit_eq hover snap dragging with hsame |
    ⟨dummy, parent, index, holder, rest, p, hfor, -, hremove, hinsert, hcommit⟩
  · exact Or.inl (by rw [hsame])
  · obtain rfl : holder = dummy := removeFrom?_dummy hids hfor hremove
    obtain ⟨-, hown, hnonempty⟩ := dummyFor?_eq_some hfor
    obtain ⟨target, isEmpty, hfilled, htrades⟩ := trades_of_insertAt? hremove hinsert
    -- the parent has children afterwards, since the dummy had some
    obtain rfl : isEmpty = false := by
      rw [← Bool.not_eq_true]
      exact fun hempty => List.isEmpty_eq_false_iff.mp hnonempty (hfilled hempty)
    rw [hcommit]
    exact Or.inr ⟨holder.node false, target, hown, htrades⟩

/-! ## New blocks and new fields -/

end Diagram

/-- The own fields of a kind. -/
def Kind.own : Kind → OwnFields
  | .container kind _ => .container kind
  | .statement kind => .statement kind

/-- The children that a kind comes with. -/
def Kind.children : Kind → List Block
  | .container _ children => children
  | .statement _ => []

theorem Kind.type_own (kind : Kind) : kind.own.type = kind.type := by
  cases kind <;> rfl

theorem Kind.children_toBlock (kind : Kind) (id : String) (position : Option Position) :
    (kind.toBlock id position).children = kind.children := by
  cases kind <;> rfl

theorem Kind.node_toBlock (kind : Kind) (id : String) (position : Option Position) (nested : Bool) :
    (kind.toBlock id position).node nested = ⟨nested, id, position, kind.own, kind.children.isEmpty⟩ := by
  cases kind <;> rfl

namespace Diagram

/-- The nodes that an addition brings: the new block at the top level, or inside a new dummy. -/
def addedNodes (d : Diagram) (drawn : Nat) (kind : Kind) : List Node :=
  let id := d.program.newId drawn
  if kind.type.isTopLevel then [⟨false, id, some d.spawnPosition, kind.own, true⟩]
  else [d.newDummy d.spawnPosition, ⟨true, id, none, kind.own, true⟩]

/-- The id of a new dummy breaks no rule. -/
theorem newIds_newDummy (d : Diagram) (position : Position) :
    Block.NewIds d.program.ids [(d.newDummy position).id] :=
  Block.newIds_singleton (dummyName_ne_empty _) (Program.dummyName_nextDummy_not_mem _ _)

/-- The ids of a new block and of the dummy around it break no rule. -/
theorem newIds_addedNodes (d : Diagram) (drawn : Nat) (kind : Kind) :
    Block.NewIds d.program.ids ((d.addedNodes drawn kind).map Node.id) := by
  have hnew : Block.NewIds d.program.ids [d.program.newId drawn] :=
    Block.newIds_singleton (d.program.newId_ne_empty drawn) (d.program.newId_not_mem drawn)
  unfold Diagram.addedNodes
  split_ifs with htop
  · exact hnew
  · have hdummy := newIds_newDummy d d.spawnPosition
    -- the two ids are new each, and not the same
    refine ⟨?_, ?_, ?_⟩
    · rw [List.map_cons, List.mem_cons, not_or]
      exact ⟨fun h => dummyName_ne_empty _ h.symm, hnew.ne_empty⟩
    · rw [List.map_cons, List.nodup_cons]
      refine ⟨fun h => ?_, hnew.nodup⟩
      exact idOfNumber_ne_dummyName _ _ (List.mem_singleton.mp h).symm
    · rw [List.map_cons, List.forall_mem_cons]
      exact ⟨hdummy.unseen _ List.mem_cons_self, hnew.unseen⟩

/-- An addition answers the id that was drawn for it. -/
theorem addBlock_fst (d : Diagram) (drawn : Nat) (kind : Kind) :
    (d.addBlock drawn kind).1 = d.program.newId drawn := by
  unfold addBlock
  split_ifs <;> rfl

/-- An addition brings the nodes of the new block, and takes none. -/
theorem addBlock_trades (d : Diagram) (drawn : Nat) (kind : Kind) (hchildless : kind.children = []) :
    d.program.Trades (d.addBlock drawn kind).2.program [] (d.addedNodes drawn kind) := by
  refine ⟨d.program.nodes, by rw [Multiset.coe_nil, zero_add], ?_⟩
  unfold addBlock addedNodes
  -- the new block stands at the top level by itself, or it is the only child of a new dummy
  split_ifs with htop
  · show (Block.nodesIn false (d.program.blocks ++ [_]) : Multiset Node) = _
    rw [Block.coe_nodesIn_append, Block.coe_nodesIn_cons, Kind.node_toBlock, Kind.children_toBlock,
      hchildless]
    simp only [Block.nodesIn, Multiset.coe_nil, add_zero]
    exact add_comm _ _
  · show (Block.nodesIn false (d.program.blocks ++ [Block.container _ _ _ [_]]) : Multiset Node) = _
    rw [Block.coe_nodesIn_append, Block.coe_nodesIn_cons, Block.children, Block.coe_nodesIn_cons,
      Kind.node_toBlock, Kind.children_toBlock, hchildless]
    simp only [Block.nodesIn, Multiset.coe_nil, add_zero]
    exact add_comm _ _

/-- No type is that of a container and of a statement. -/
theorem type_ne {container : ContainerKind} {statement : StatementKind} :
    container.type ≠ statement.type := by
  intro h
  have hcontainer : container.type.isContainer = true := by cases container <;> rfl
  have hstatement : statement.type.isContainer = false := by cases statement <;> rfl
  rw [h, hstatement] at hcontainer
  exact Bool.false_ne_true hcontainer

/-- A block keeps its children when it gets fields of its own type. -/
theorem children_withOwnFields {kind : Kind} {block : Block} (h : kind.type = block.type) :
    (block.withOwnFields kind).children = block.children := by
  rcases block with ⟨id, position, own, children⟩ | ⟨id, position, own⟩
  · rcases kind with ⟨new, others⟩ | new
    · rfl
    · exact absurd h.symm type_ne
  · rcases kind with ⟨new, others⟩ | new
    · exact absurd h type_ne
    · rfl

/-- Of the node, other fields change only these. -/
theorem node_withOwnFields {kind : Kind} {block : Block} (h : kind.type = block.type) (nested : Bool) :
    (block.withOwnFields kind).node nested = { block.node nested with own := kind.own } := by
  have hchildren := children_withOwnFields h
  -- a container takes the fields of a container and a statement those of a statement
  rcases block with ⟨id, position, own, children⟩ | ⟨id, position, own⟩ <;>
    rcases kind with ⟨new, others⟩ | new <;>
    simp_all [Block.node, Block.withOwnFields, Kind.toBlock, Block.withChildren, Block.children, Block.id,
      Block.position, Block.own, Kind.own]

/-- An update changes the fields of one node, if they are of its type. -/
theorem updateBlock_trades {d d' : Diagram} {id : String} {kind : Kind}
    (h : d.updateBlock id kind = .ok d') :
    ∃ block, d.program.find? id = some block ∧ (kind.type = block.type → ∃ nested,
      d.program.Trades d'.program [block.node nested] [{ block.node nested with own := kind.own }]) := by
  unfold updateBlock at h
  cases hedit : Block.editFirstIn? id (fun block => ((), block.withOwnFields kind)) d.program.blocks with
  | none => rw [hedit] at h; exact absurd h (by simp)
  | some found =>
    rw [hedit] at h
    obtain rfl := Except.ok.inj h
    obtain ⟨block, nested, hfind, -, -, hexchange⟩ := Block.editFirstIn?_eq_some hedit
    refine ⟨block, hfind, fun htype => ⟨nested, ?_⟩⟩
    obtain ⟨kept, hold, hnew⟩ := hexchange.coe_nodesIn
    rw [node_withOwnFields htype, children_withOwnFields htype] at hnew
    -- the children of the block are kept
    refine ⟨↑(Block.nodesIn true block.children) + kept, ?_, ?_⟩
    · rw [Program.nodes, hold, Multiset.coe_singleton, Multiset.cons_add, Multiset.singleton_add]
    · show (Block.nodesIn false found.2 : Multiset Node) = _
      rw [hnew, Multiset.coe_singleton, Multiset.cons_add, Multiset.singleton_add]

end Diagram

end Signalbox
