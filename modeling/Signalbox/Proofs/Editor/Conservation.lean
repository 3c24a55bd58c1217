import Mathlib.Data.Multiset.Filter
import Signalbox.Proofs.Editor.Edit
import Signalbox.Proofs.Editor.Trade

/-!
# What is never lost

Dummies come and go while blocks are dragged about. Every other block lasts: it keeps its id and its own
fields, and there is one of it however it is moved. `Program.lasting` collects the blocks that last, wherever
they stand.

Main results:

* `Program.Trades.lasting_eq`: an edit changes what lasts by the nodes that it takes and gives.
* `lasting_run`: a session of moves and additions changes what lasts by the blocks added, and by nothing
  else.
-/

namespace Signalbox

/-- The id and the own fields of a node that is no dummy. -/
def Node.lasting? (n : Node) : Option (String × OwnFields) :=
  if n.own.type = .dummy then none else some (n.id, n.own)

/-- The ids and the own fields of all blocks that are no dummies. -/
def Program.lasting (p : Program) : Multiset (String × OwnFields) :=
  (p.nodes : Multiset Node).filterMap Node.lasting?

/-- The edits that only move blocks about, and those that add one block without children that is no
dummy. -/
def Edit.Conserves : Edit → Prop
  | .addBlock _ kind => kind.type ≠ .dummy ∧ kind.children = []
  | edit => edit.Moves

/-- The block that an edit adds: the id that it gives and the own fields it is given. -/
def Edit.added (c : Canvas) : Edit → Multiset (String × OwnFields)
  | .addBlock drawn kind => {((c.diagram.addBlock drawn kind).1, kind.own)}
  | _ => 0

/-- The blocks that a list of edits adds. -/
def Canvas.added (c : Canvas) : List Edit → Multiset (String × OwnFields)
  | [] => 0
  | edit :: rest => edit.added c + (c.apply edit).added rest

/-- An edit that only moves blocks about adds none. -/
theorem Edit.added_eq_zero {c : Canvas} {edit : Edit} (h : edit.Moves) : edit.added c = 0 := by
  cases edit <;> first | rfl | exact h.elim

/-- Moves add nothing. -/
theorem Canvas.added_eq_zero {c : Canvas} {edits : List Edit} (h : ∀ edit ∈ edits, edit.Moves) :
    c.added edits = 0 := by
  induction edits generalizing c with
  | nil => rfl
  | cons edit rest ih =>
    obtain ⟨hedit, hrest⟩ := List.forall_mem_cons.mp h
    rw [added, Edit.added_eq_zero hedit, ih hrest, add_zero]

/-! ## Nodes that last -/

theorem lasting?_withPosition (n : Node) (position : Option Position) :
    Node.lasting? { n with position } = n.lasting? := rfl

theorem lasting?_withEmpty (n : Node) (isEmpty : Bool) : Node.lasting? { n with isEmpty } = n.lasting? := rfl

theorem lasting?_eq_none {n : Node} (h : n.own = .container .dummy) : n.lasting? = none := by
  rw [Node.lasting?, h]
  rfl

theorem lasting?_newDummy (d : Diagram) (position : Position) : (d.newDummy position).lasting? = none :=
  lasting?_eq_none rfl

/-- What lasts changes by the nodes that an edit takes and gives. -/
theorem Program.Trades.lasting_eq {p p' : Program} {gone come : List Node} (h : p.Trades p' gone come)
    (extra : List (String × OwnFields))
    (hlasting : come.filterMap Node.lasting? = extra ++ gone.filterMap Node.lasting?) :
    p'.lasting = extra + p.lasting := by
  obtain ⟨kept, hold, hnew⟩ := h
  rw [lasting, lasting, hold, hnew, Multiset.filterMap_add, Multiset.filterMap_add, Multiset.filterMap_coe,
    Multiset.filterMap_coe, hlasting, ← Multiset.coe_add, add_assoc]

/-! ## Sessions -/

/-- What is carried through a session: ids are distinct, and the blocks that last are `blocks`. -/
structure Program.Holds (blocks : Multiset (String × OwnFields)) (p : Program) : Prop where
  ids_nodup : p.ids.Nodup
  lasting_eq : p.lasting = blocks

namespace Program.Holds

variable {blocks : Multiset (String × OwnFields)}

/-- An edit that takes and gives nodes of the same lasting blocks leaves the lasting blocks as they are. -/
theorem lasting_of_trades {p p' : Program} {gone come : List Node} (h : p.Holds blocks)
    (htrades : p.Trades p' gone come)
    (hlasting : come.filterMap Node.lasting? = gone.filterMap Node.lasting?) : p'.lasting = blocks := by
  rw [htrades.lasting_eq [] hlasting, h.lasting_eq, Multiset.coe_nil, zero_add]

/-- A split keeps what lasts. -/
theorem split (d : Diagram) (id : String) (position : Position) (h : d.program.Holds blocks) :
    (d.split id position).2.program.Holds blocks := by
  rcases d.split_cases id position with hsame | ⟨parent, isEmpty, htrades, -⟩
  · rwa [hsame]
  · refine ⟨htrades.ids_nodup _ (List.Perm.refl _) (d.newIds_newDummy position) h.ids_nodup,
      h.lasting_of_trades htrades ?_⟩
    rw [List.filterMap_cons_none (lasting?_newDummy d position)]
    simp only [List.filterMap_cons, lasting?_withEmpty]

/-- So does a commit. -/
theorem commit (d : Diagram) (hover : String) (snap : SnapType) (dragging : String)
    (h : d.program.Holds blocks) : (d.commit hover snap dragging).2.program.Holds blocks := by
  rcases d.commit_cases h.ids_nodup hover snap dragging with hsame | ⟨holder, parent, hholder, htrades⟩
  · rwa [hsame]
  · refine ⟨htrades.ids_nodup_of_gone [holder.id] (List.Perm.refl _) h.ids_nodup,
      h.lasting_of_trades htrades ?_⟩
    rw [List.filterMap_cons_none (lasting?_eq_none hholder)]
    simp only [List.filterMap_cons, lasting?_withEmpty]

/-- So does another position. -/
theorem setPosition (d : Diagram) (id : String) (position : Position) (h : d.program.Holds blocks) :
    (d.setPosition id position).2.program.Holds blocks := by
  rcases d.setPosition_cases id position with hsame | ⟨n, -, htrades⟩
  · rwa [hsame]
  · refine ⟨htrades.ids_nodup [] (List.Perm.refl _) (Block.newIds_nil _) h.ids_nodup,
      h.lasting_of_trades htrades ?_⟩
    simp only [List.filterMap_cons, lasting?_withPosition]

/-- What lasts is kept by all moves. -/
theorem moves (blocks : Multiset (String × OwnFields)) : KeptByMoves (Program.Holds blocks) :=
  ⟨split, commit, setPosition⟩

/-- An addition brings the new block, and perhaps a dummy around it. -/
theorem addBlock (d : Diagram) (drawn : Nat) {kind : Kind} (hdummy : kind.type ≠ .dummy)
    (hchildless : kind.children = []) (h : d.program.Holds blocks) :
    (d.addBlock drawn kind).2.program.Holds ({((d.addBlock drawn kind).1, kind.own)} + blocks) := by
  have htrades := d.addBlock_trades drawn kind hchildless
  refine ⟨htrades.ids_nodup _ (by rw [List.map_nil, List.append_nil]) (d.newIds_addedNodes drawn kind)
    h.ids_nodup, ?_⟩
  rw [← h.lasting_eq, ← Multiset.coe_singleton]
  refine htrades.lasting_eq _ ?_
  -- the dummy around the new block does not last
  have hlasting : ∀ n : Node, n.own = kind.own → n.lasting? = some (n.id, kind.own) := by
    intro n hn
    rw [Node.lasting?, hn, Kind.type_own, if_neg hdummy]
  rw [d.addBlock_fst]
  unfold Diagram.addedNodes
  split_ifs with htop
  · rw [List.filterMap_cons_some (hlasting _ rfl)]
    rfl
  · rw [List.filterMap_cons_none (lasting?_newDummy d d.spawnPosition), List.filterMap_cons_some (hlasting _ rfl)]
    rfl

/-- A move keeps what lasts and adds nothing to it. -/
theorem of_moves {c : Canvas} {edit : Edit} (hmoves : edit.Moves) (h : c.diagram.program.Holds blocks) :
    (c.apply edit).diagram.program.Holds (edit.added c + blocks) := by
  rw [Edit.added_eq_zero hmoves, zero_add]
  exact (moves blocks).apply hmoves h

/-- One edit changes the lasting blocks by what it adds. -/
theorem apply {c : Canvas} {edit : Edit} (hedit : edit.Conserves)
    (h : c.diagram.program.Holds blocks) :
    (c.apply edit).diagram.program.Holds (edit.added c + blocks) := by
  cases edit with
  | addBlock drawn kind => exact h.addBlock c.diagram drawn hedit.1 hedit.2
  | createDummy position => exact hedit.elim
  | updateBlock id kind => exact hedit.elim
  | _ => exact h.of_moves trivial

/-- A session changes the lasting blocks by what its edits add. -/
theorem run {c : Canvas} {edits : List Edit} (hedits : ∀ edit ∈ edits, edit.Conserves)
    (h : c.diagram.program.Holds blocks) :
    (c.run edits).diagram.program.Holds (c.added edits + blocks) := by
  induction edits generalizing c blocks with
  | nil =>
    rw [Canvas.added, zero_add]
    exact h
  | cons edit rest ih =>
    obtain ⟨hedit, hrest⟩ := List.forall_mem_cons.mp hedits
    -- the rest of the session starts from what this edit leaves
    have hlast := ih hrest (h.apply hedit)
    rw [Canvas.added, add_comm (edit.added c), add_assoc]
    exact hlast

end Program.Holds

/-- A session of moves and additions changes the lasting blocks by the blocks that are added, and a session of
moves alone does not change them. -/
theorem lasting_run (c : Canvas) (edits : List Edit) (hids : c.diagram.program.ids.Nodup)
    (hedits : ∀ edit ∈ edits, edit.Conserves) :
    (c.run edits).diagram.program.lasting = c.added edits + c.diagram.program.lasting ∧
      ((∀ edit ∈ edits, edit.Moves) →
        (c.run edits).diagram.program.lasting = c.diagram.program.lasting) := by
  have hstart : c.diagram.program.Holds c.diagram.program.lasting := ⟨hids, rfl⟩
  have hrun := (hstart.run hedits).lasting_eq
  refine ⟨hrun, fun hmoves => ?_⟩
  rw [hrun, Canvas.added_eq_zero hmoves, zero_add]

/-- A loop is dragged out of its once block and put onto a log that was added meanwhile. -/
theorem lasting_run_of_drag :
    let c := Canvas.ofDiagram (.ofProgram ⟨[.container "setup" none .once
      [.statement "a" none (.log (.text "a")), .container "r" none (.loop 2) []]]⟩ defaultSpawnPosition)
    let onto : Geometry := ⟨fun _ => ["new", "a"], fun _ => some ⟨0, 0, 100, 40⟩⟩
    let edits : List Edit := [.pointerDown onto "r" ⟨0, 0⟩, .pointerMove onto ⟨30, 40⟩,
      .addBlock 7 (.statement (.log (.text "new"))), .commit "7" .append "r", .pointerUp]
    c.diagram.program.ids.Nodup ∧ (∀ edit ∈ edits, edit.Conserves) ∧
      (c.run edits).diagram.program.lasting =
        c.added edits + {("setup", .container .once), ("a", .statement (.log (.text "a"))),
          ("r", .container (.loop 2))} := by
  intro c onto edits
  have hids : c.diagram.program.ids.Nodup := by decide
  have hedits : ∀ edit ∈ edits, edit.Conserves := by
    simp [edits, Edit.Conserves, Edit.Moves, Kind.type, StatementKind.type, Kind.children]
  exact ⟨hids, hedits, (lasting_run c edits hids hedits).1⟩

end Signalbox
