import Signalbox.Editor.Move
import Signalbox.Proofs.Block.Preorder
import Signalbox.Proofs.Editor.Trade
import Signalbox.Proofs.Program.Saved

/-!
# Sound programs under edit

Edits put blocks at positions and inside each other without regard to what a document can hold. A new block,
or the dummy around it, stands at the spawn position, whatever that is; a move puts nothing new anywhere but
may stack blocks without bound.

Main results:

* `Diagram.sound_addBlock_iff`: what an addition to a sound program leads to.
* `Program.sound_move_iff`: what a move in a sound program leads to.
-/

namespace Signalbox

/-- A kind without children whose scalar, if it has one, is storable. -/
def Kind.IsPlain (kind : Kind) : Prop :=
  kind.Holds (· = []) Scalar.Storable

namespace Kind.IsPlain

variable {kind : Kind}

/-- A plain kind comes without children. -/
theorem children_eq_nil (h : kind.IsPlain) : kind.children = [] := by
  cases kind with
  | container own children => exact h
  | statement own => rfl

/-- The scalar of a plain kind can be stored. -/
theorem storable (h : kind.IsPlain) {own : StatementKind} {value : Scalar} (hown : kind.own = .statement own)
    (hscalar : own.scalar? = some value) : value.Storable := by
  cases kind with
  | container => exact nomatch hown
  | statement =>
    obtain rfl := OwnFields.statement.inj hown
    exact h value hscalar

end Kind.IsPlain

namespace Diagram

variable {d : Diagram}

/-! ## Moves -/

/-- A new dummy can be stored at a finite position. -/
theorem storable_newDummy {position : Position} (h : position.IsFinite) : (d.newDummy position).Storable :=
  ⟨fun _ hp => Option.some.inj hp ▸ h, nofun⟩

/-- A split brings nothing but a dummy at the position. -/
theorem storable_split {id : String} {position : Position} (hposition : position.IsFinite)
    (h : ∀ node ∈ d.program.nodes, node.Storable) :
    ∀ node ∈ (d.split id position).2.program.nodes, node.Storable := by
  rcases d.split_cases id position with hsame | ⟨parent, isEmpty, htrades, -⟩
  · rwa [hsame]
  · refine htrades.forall_nodes h fun hgone => List.forall_mem_cons.mpr ⟨storable_newDummy hposition, ?_⟩
    exact List.forall_mem_singleton.mpr (hgone parent (List.mem_singleton_self parent))

/-- A commit brings nothing. -/
theorem storable_commit {hover dragging : String} {snap : SnapType}
    (h : ∀ node ∈ d.program.nodes, node.Storable) :
    ∀ node ∈ (d.commit hover snap dragging).2.program.nodes, node.Storable := by
  rcases d.commit_eq hover snap dragging with hsame |
    ⟨dummy, parent, index, holder, rest, p, -, -, hremove, hinsert, hcommit⟩
  · rwa [hsame]
  · obtain ⟨target, isEmpty, -, htrades⟩ := trades_of_insertAt? hremove hinsert
    rw [hcommit]
    refine htrades.forall_nodes h fun hgone => List.forall_mem_singleton.mpr ?_
    exact hgone target (List.mem_cons_of_mem _ (List.mem_singleton_self target))

/-! ## Additions -/

/-- The nodes of an addition can be stored exactly if the spawn position is finite. -/
theorem storable_addedNodes_iff (d : Diagram) (drawn : Nat) {kind : Kind} (hkind : kind.IsPlain) :
    (∀ node ∈ d.addedNodes drawn kind, node.Storable) ↔ d.spawnPosition.IsFinite := by
  unfold addedNodes
  split_ifs
  · -- the block itself stands at the spawn position
    refine ⟨fun h => (h _ List.mem_cons_self).1 _ rfl, fun h => List.forall_mem_singleton.mpr ⟨?_, ?_⟩⟩
    · exact fun p hp => Option.some.inj hp ▸ h
    · exact fun own value => hkind.storable
  · -- the dummy around the block does
    refine ⟨fun h => (h _ List.mem_cons_self).1 _ rfl, fun h => List.forall_mem_cons.mpr ⟨?_, ?_⟩⟩
    · exact storable_newDummy h
    · exact List.forall_mem_singleton.mpr ⟨nofun, fun own value => hkind.storable⟩

/-- The blocks of an addition are at most two inside each other. -/
theorem levelsIn_addBlock_le (d : Diagram) (drawn : Nat) {kind : Kind} (hkind : kind.IsPlain) :
    Block.levelsIn (d.addBlock drawn kind).2.program.blocks ≤ max (Block.levelsIn d.program.blocks) 2 := by
  have hlevels : ∀ id position, (kind.toBlock id position).levels = 1 := by
    intro id position
    rw [Block.levels_eq, Kind.children_toBlock, hkind.children_eq_nil, Block.levelsIn]
  unfold addBlock
  split_ifs
  · show Block.levelsIn (d.program.blocks ++ [_]) ≤ _
    rw [Block.levelsIn_append, Block.levelsIn, Block.levelsIn, hlevels]
    omega
  · show Block.levelsIn (d.program.blocks ++ [Block.container _ _ _ [_]]) ≤ _
    rw [Block.levelsIn_append, Block.levelsIn, Block.levelsIn, Block.levels, Block.levelsIn, Block.levelsIn,
      hlevels]
    omega

/-- A sound program stays sound under an addition exactly when the spawn position is finite. -/
theorem sound_addBlock_iff {bound drawn : Nat} {kind : Kind} (h : Block.Sound bound d.program.blocks)
    (hbound : 4 ≤ bound) (hkind : kind.IsPlain) :
    Block.Sound bound (d.addBlock drawn kind).2.program.blocks ↔ d.spawnPosition.IsFinite := by
  obtain ⟨hstorable, hlevels⟩ := h
  have htrades := addBlock_trades d drawn kind hkind.children_eq_nil
  rw [← storable_addedNodes_iff d drawn hkind]
  constructor
  · rintro ⟨hresult, -⟩ node hnode
    exact (Program.storable_iff _).mp hresult node (htrades.symm.mem_of_mem_gone hnode)
  · refine fun hadded => ⟨(Program.storable_iff _).mpr ?_, ?_⟩
    · exact htrades.forall_nodes ((Program.storable_iff _).mp hstorable) fun _ => hadded
    · have hadd := levelsIn_addBlock_le d drawn hkind
      omega

end Diagram

namespace Program

variable {p q : Program}

/-- The position of a block of a storable program is finite. -/
theorem isFinite_of_find? {id : String} {block : Block} {position : Position}
    (h : ∀ node ∈ p.nodes, node.Storable) (hfind : p.find? id = some block)
    (hposition : block.position = some position) : position.IsFinite := by
  have hmem : block ∈ Block.preorderIn p.blocks := by
    rw [find?, Block.findIn?_eq_find?_preorderIn] at hfind
    exact List.mem_of_find?_eq_some hfind
  have hnode : block.node true ∈ Block.nodesIn true p.blocks := by
    rw [Block.nodesIn_true_eq_map_preorderIn]
    exact List.mem_map_of_mem hmem
  exact ((Block.storableIn_iff_nodesIn true).mp ((storable_iff p).mpr h) _ hnode).1 position hposition

/-- Moves keep a program storable. -/
theorem storable_move {block onto : String} {snap : SnapType} {placement : Placement}
    (hp : Block.StorableIn p.blocks) (h : p.move block onto snap = .ok (placement, q)) :
    Block.StorableIn q.blocks := by
  obtain ⟨-, dummy, d, d', hsplit, hcommit, rfl⟩ := move_eq_ok_iff.mp h
  have hnodes := (storable_iff p).mp hp
  -- the list is split off where its first block stands, or at the origin
  have hfinite : (((p.find? block).bind (·.position)).getD ⟨0, 0⟩).IsFinite := by
    cases hstands : (p.find? block).bind (·.position) with
    | none => exact ⟨by decide, by decide⟩
    | some place =>
      obtain ⟨found, hfind, hplace⟩ := Option.bind_eq_some_iff.mp hstands
      exact isFinite_of_find? hnodes hfind hplace
  have hd : ((Diagram.ofProgram p defaultSpawnPosition).split block _).2 = d := congrArg Prod.snd hsplit
  have hd' : (d.commit onto snap block).2 = d' := congrArg Prod.snd hcommit
  subst hd hd'
  exact (storable_iff _).mpr (Diagram.storable_commit (Diagram.storable_split hfinite hnodes))

/-- A sound program stays sound under a move exactly when its blocks do not end up too far inside each
other. -/
theorem sound_move_iff {bound : Nat} {block onto : String} {snap : SnapType} {placement : Placement}
    (hp : Block.Sound bound p.blocks) (h : p.move block onto snap = .ok (placement, q)) :
    Block.Sound bound q.blocks ↔ 2 * Block.levelsIn q.blocks ≤ bound :=
  ⟨And.right, fun hlevels => ⟨storable_move hp.1 h, hlevels⟩⟩

end Program

end Signalbox
