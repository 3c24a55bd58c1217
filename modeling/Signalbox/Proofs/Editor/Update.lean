import Signalbox.Proofs.Editor.Place

/-!
# What an update keeps

An update puts the own fields of a kind into the place of those of one block. The children of the block stay with it
when it is a container and becomes one again. A kind can have children of its own, though, and a statement has no place
for any: a block that becomes a container adopts the children of the kind, and a container that becomes a statement
drops the ones it had.

Main results:

* `Block.children_withOwnFields_eq`: whose children a block has afterwards.
* `Block.Exchange.idsIn_eq_iff`: ids around a changed block tell nothing about the change.
* `Diagram.updateBlock_keeps_ids_iff`: what an update changes, and when it brings or loses blocks.
-/

namespace Signalbox

/-- A statement has no children. -/
theorem Block.children_eq_nil_of_statement {block : Block} (h : block.isContainer = false) : block.children = [] := by
  by_contra hchildren
  rw [isContainer_of_children_ne_nil hchildren] at h
  exact Bool.false_ne_true h.symm

/-- Whether a new block is a container is told by its type. -/
theorem Kind.isContainer_toBlock (kind : Kind) (id : String) (position : Option Position) :
    (kind.toBlock id position).isContainer = kind.type.isContainer := by
  rw [← Block.isContainer_type]
  cases kind <;> rfl

/-- The kind of a statement comes without children. -/
theorem Kind.children_eq_nil_of_statement {kind : Kind} (h : kind.type.isContainer = false) : kind.children = [] := by
  rw [← kind.isContainer_toBlock "" none] at h
  rw [← kind.children_toBlock "" none]
  exact Block.children_eq_nil_of_statement h

namespace Block

variable {old new block : Block} {nested : Bool} {blocks blocks' : List Block} {kind : Kind}

/-! ## Ids around a block -/

/-- Only an empty list has no ids. -/
theorem idsIn_eq_nil_iff : idsIn blocks = [] ↔ blocks = [] := by
  cases blocks with
  | nil => simp [Block.idsIn]
  | cons block rest => simp [idsIn_cons]

/-- The ids around the place stay as they are. -/
theorem Exchange.idsIn (h : Exchange old new nested blocks blocks') :
    ∃ before after, Block.idsIn blocks = before ++ old.id :: Block.idsIn old.children ++ after ∧
      Block.idsIn blocks' = before ++ new.id :: Block.idsIn new.children ++ after := by
  -- an id belongs to a node, and the nodes around the place stay
  obtain ⟨before, after, hold, hnew⟩ := h.nodesIn false
  refine ⟨before.map Node.id, after.map Node.id, ?_, ?_⟩
  · rw [idsIn_eq_map_nodesIn false, hold, nodes_eq_cons, List.map_append, List.map_append, List.map_cons,
      ← idsIn_eq_map_nodesIn]
    rfl
  · rw [idsIn_eq_map_nodesIn false, hnew, nodes_eq_cons, List.map_append, List.map_append, List.map_cons,
      ← idsIn_eq_map_nodesIn]
    rfl

/-- Where one block stands for another with its id, the ids are the same when they are the same inside the two. -/
theorem Exchange.idsIn_eq_iff (h : Exchange old new nested blocks blocks') (hid : new.id = old.id) :
    Block.idsIn blocks' = Block.idsIn blocks ↔ Block.idsIn new.children = Block.idsIn old.children := by
  obtain ⟨before, after, hold, hnew⟩ := h.idsIn
  rw [hold, hnew, hid, List.append_left_inj, List.append_right_inj, List.cons_inj_right]

/-! ## New own fields -/

theorem id_withOwnFields (kind : Kind) (block : Block) : (block.withOwnFields kind).id = block.id := by
  cases block <;> cases kind <;> rfl

theorem position_withOwnFields (kind : Kind) (block : Block) :
    (block.withOwnFields kind).position = block.position := by
  cases block <;> cases kind <;> rfl

theorem own_withOwnFields (kind : Kind) (block : Block) : (block.withOwnFields kind).own = kind.own := by
  cases block <;> cases kind <;> rfl

/-- The children are those of the block where there is a place for them before and after, and else those of the kind. -/
theorem children_withOwnFields_eq (kind : Kind) (block : Block) :
    (block.withOwnFields kind).children =
      if block.isContainer ∧ kind.type.isContainer then block.children else kind.children := by
  cases block with
  | statement id position own =>
    rw [if_neg fun h => Bool.false_ne_true h.1]
    exact Kind.children_toBlock kind id position
  | container id position own children =>
    have hcontainer := kind.isContainer_toBlock id position
    cases kind with
    | container new others => exact (if_pos ⟨rfl, hcontainer.symm⟩).symm
    | statement new => exact (if_neg fun h => Bool.false_ne_true (hcontainer.trans h.2)).symm

/-- A block keeps its children when it gets the fields of a kind: both own a list of blocks, or neither does, or there
are no children in either. -/
def KeepsChildren (block : Block) (kind : Kind) : Prop :=
  block.isContainer = kind.type.isContainer ∨ block.children = [] ∧ kind.children = []

/-- It keeps its children exactly if the kind lets it. -/
theorem children_withOwnFields_iff (kind : Kind) (block : Block) :
    (block.withOwnFields kind).children = block.children ↔ block.KeepsChildren kind := by
  rw [children_withOwnFields_eq, KeepsChildren]
  cases hblock : block.isContainer with
  | false =>
    -- the block has no children, so it must not get any
    have hnone := children_eq_nil_of_statement hblock
    cases htype : kind.type.isContainer with
    | false => simp [hnone, Kind.children_eq_nil_of_statement htype]
    | true => simp [hnone]
  | true =>
    cases htype : kind.type.isContainer with
    | false =>
      -- the kind has no place for the children, so there must not be any
      rw [Kind.children_eq_nil_of_statement htype, if_neg fun h => Bool.false_ne_true h.2, eq_comm]
      simp
    | true => simp

/-- Other children than before are children instead of none, or none instead of children. -/
theorem children_withOwnFields_cases (kind : Kind) (block : Block) :
    (block.withOwnFields kind).children = block.children ∨ block.children = [] ∨
      (block.withOwnFields kind).children = [] := by
  rw [children_withOwnFields_eq]
  by_cases hboth : block.isContainer = true ∧ kind.type.isContainer = true
  · exact Or.inl (if_pos hboth)
  · rw [if_neg hboth]
    rcases not_and_or.mp hboth with hblock | htype
    · exact Or.inr (Or.inl (children_eq_nil_of_statement (Bool.eq_false_of_not_eq_true hblock)))
    · exact Or.inr (Or.inr (Kind.children_eq_nil_of_statement (Bool.eq_false_of_not_eq_true htype)))

/-- So the ids of the children tell already whether they are the same blocks. -/
theorem idsIn_children_withOwnFields_iff (kind : Kind) (block : Block) :
    idsIn (block.withOwnFields kind).children = idsIn block.children ↔ block.KeepsChildren kind := by
  rw [← children_withOwnFields_iff]
  rcases block.children_withOwnFields_cases kind with hsame | hnone | hnone
  · simp [hsame]
  · rw [hnone, idsIn, idsIn_eq_nil_iff]
  · rw [hnone, idsIn, eq_comm, idsIn_eq_nil_iff, eq_comm]

end Block

namespace Program

/-- In going from one program to another, a block gets the own fields of a kind. It keeps its id and its position,
nothing around it changes, and its children are its own or those of the kind. -/
structure Updates (p : Program) (kind : Kind) (block new : Block) (p' : Program) : Prop where
  exchange : ∃ nested, Block.Exchange block new nested p.blocks p'.blocks
  id_eq : new.id = block.id
  position_eq : new.position = block.position
  own_eq : new.own = kind.own
  children_eq : new.children = if block.isContainer ∧ kind.type.isContainer then block.children else kind.children

end Program

namespace Diagram

/-- A block of the program is updated, and it is the one that a lookup finds. -/
theorem exists_updateBlock_eq_ok (d : Diagram) {id : String} (hid : id ∈ d.program.ids) (kind : Kind) :
    ∃ block p', d.program.find? id = some block ∧ d.updateBlock id kind = .ok { d with program := p' } ∧
      d.program.Updates kind block (block.withOwnFields kind) p' := by
  have hsome : (d.program.find? id).isSome = true := (Block.findIn?_isSome_iff _ _).mpr hid
  unfold updateBlock
  cases hedit : Block.editFirstIn? id (fun block => ((), block.withOwnFields kind)) d.program.blocks with
  | none =>
    -- the edit goes through the program as the lookup does
    rw [Program.find?, Block.editFirstIn?_eq_none hedit] at hsome
    exact absurd hsome Bool.false_ne_true
  | some found =>
    obtain ⟨answer, blocks⟩ := found
    obtain ⟨block, nested, hfind, -, -, hexchange⟩ := Block.editFirstIn?_eq_some hedit
    exact ⟨block, ⟨blocks⟩, hfind, rfl, ⟨nested, hexchange⟩, Block.id_withOwnFields kind block,
      Block.position_withOwnFields kind block, Block.own_withOwnFields kind block,
      Block.children_withOwnFields_eq kind block⟩

/-- An update of a block of the program goes through. The block keeps its id and its position, and nothing around it
changes. The ids of the whole program stay as they are, in their order, exactly when the block keeps its children. -/
theorem updateBlock_keeps_ids_iff (d : Diagram) {id : String} (hid : id ∈ d.program.ids) (kind : Kind) :
    ∃ block new p', d.program.find? id = some block ∧ d.updateBlock id kind = .ok { d with program := p' } ∧
      d.program.Updates kind block new p' ∧ (new.children = block.children ↔ block.KeepsChildren kind) ∧
      (p'.ids = d.program.ids ↔ block.KeepsChildren kind) := by
  obtain ⟨block, p', hfind, hupdate, hupdates⟩ := d.exists_updateBlock_eq_ok hid kind
  obtain ⟨nested, hexchange⟩ := hupdates.exchange
  -- outside the block nothing changes, so its children decide about the ids
  have hids : p'.ids = d.program.ids ↔ block.KeepsChildren kind :=
    (hexchange.idsIn_eq_iff hupdates.id_eq).trans (Block.idsIn_children_withOwnFields_iff kind block)
  have hchildren := Block.children_withOwnFields_iff kind block
  exact ⟨block, block.withOwnFields kind, p', hfind, hupdate, hupdates, hchildren, hids⟩

/-- A once block around a log and a loop with a log inside it. -/
def logAndLoop : Diagram :=
  ofProgram ⟨[.container "o" none .once [.statement "a" none (.log (.text "a")),
    .container "r" none (.loop 2) [.statement "b" none (.log (.text "b"))]]]⟩ defaultSpawnPosition

/-- The log becomes a loop and adopts the log that the kind comes with; the loop becomes a sleep and drops the log
inside it. -/
theorem updateBlock_keeps_ids_iff_logAndLoop :
    ("a" ∈ logAndLoop.program.ids ∧ "r" ∈ logAndLoop.program.ids) ∧
      logAndLoop.program.ids = ["o", "a", "r", "b"] ∧
      (∃ p', logAndLoop.updateBlock "a" (.container (.loop 3) [.statement "x" none (.log (.text "x"))]) =
        .ok { logAndLoop with program := p' } ∧ p'.ids ≠ logAndLoop.program.ids ∧ p'.ids = ["o", "a", "x", "r", "b"]) ∧
      ∃ p', logAndLoop.updateBlock "r" (.statement (.sleep (.number (.int 5)))) =
        .ok { logAndLoop with program := p' } ∧ p'.ids ≠ logAndLoop.program.ids ∧ p'.ids = ["o", "a", "r"] := by
  have ha : "a" ∈ logAndLoop.program.ids := by decide
  have hr : "r" ∈ logAndLoop.program.ids := by decide
  refine ⟨⟨ha, hr⟩, rfl, ?_, ?_⟩
  · -- a log that becomes a loop with a child of its own
    obtain ⟨block, new, p', hfind, hupdate, -, -, hids⟩ := logAndLoop.updateBlock_keeps_ids_iff ha
      (.container (.loop 3) [.statement "x" none (.log (.text "x"))])
    obtain rfl := Option.some.inj hfind
    have hchanged : p'.ids ≠ logAndLoop.program.ids := by
      rw [ne_eq, hids]
      simp [Block.KeepsChildren, Block.isContainer, Kind.type, ContainerKind.type, BlockType.isContainer,
        Kind.children]
    refine ⟨p', hupdate, hchanged, ?_⟩
    obtain rfl := congrArg Diagram.program (Except.ok.inj hupdate)
    rfl
  · -- a loop that becomes a sleep and loses its child
    obtain ⟨block, new, p', hfind, hupdate, -, -, hids⟩ := logAndLoop.updateBlock_keeps_ids_iff hr
      (.statement (.sleep (.number (.int 5))))
    obtain rfl := Option.some.inj hfind
    have hchanged : p'.ids ≠ logAndLoop.program.ids := by
      rw [ne_eq, hids]
      simp [Block.KeepsChildren, Block.isContainer, Kind.type, StatementKind.type, BlockType.isContainer,
        Block.children]
    refine ⟨p', hupdate, hchanged, ?_⟩
    obtain rfl := congrArg Diagram.program (Except.ok.inj hupdate)
    rfl

end Diagram

end Signalbox
