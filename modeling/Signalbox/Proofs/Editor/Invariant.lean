import Signalbox.Proofs.Editor.Edit
import Signalbox.Proofs.Editor.Trade

/-!
# What every edit keeps

A valid program stays valid through any session of edits and gestures, as long as new blocks come without
children and are no dummies, and blocks are updated with fields of their own type. If at the start only
top-level blocks have a position and no dummy is empty, then that stays so as well.

Main results:

* `Program.Valid.of_trades`: an edit that gives well-placed nodes with new ids keeps a program valid.
* `violations_eq_nil_of_mem_states`: no rule is broken after any edit of a session.
-/

namespace Signalbox

/-- A block inside another one has no position, and a dummy is not empty. -/
structure Node.Tidy (n : Node) : Prop where
  position_eq_none : n.nested = true → n.position = none
  dummy_nonempty : n.own = .container .dummy → n.isEmpty = false

/-- Only top-level blocks have a position, and no dummy is empty. -/
def Program.Tidy (p : Program) : Prop :=
  ∀ n ∈ p.nodes, n.Tidy

/-- The edits that a session is made of: blocks are added without children and not as dummies, and a block is
updated with fields of its own type. -/
def Edit.Admissible (c : Canvas) : Edit → Prop
  | .addBlock _ kind => kind.type ≠ .dummy ∧ kind.children = []
  | .updateBlock id kind => ∀ block, c.diagram.program.find? id = some block → kind.type = block.type
  | _ => True

/-- Every edit is admissible when its turn comes. -/
def Canvas.Admits (c : Canvas) : List Edit → Prop
  | [] => True
  | edit :: rest => edit.Admissible c ∧ (c.apply edit).Admits rest

/-! ## Validity -/

namespace Program.Valid

variable {p p' : Program} {gone come : List Node}

/-- An edit that gives well-placed nodes, and besides the old ids only new ones, keeps a program valid. -/
theorem of_trades (h : p.Valid) (htrades : p.Trades p' gone come) (extra : List String)
    (hids : (come.map Node.id).Perm (extra ++ gone.map Node.id)) (hextra : Block.NewIds p.ids extra)
    (hplaced : (∀ n ∈ gone, n.WellPlaced) → ∀ n ∈ come, n.WellPlaced) : p'.Valid := by
  have hperm : p'.ids.Perm (extra ++ p.ids) := htrades.ids_perm hids
  refine ⟨?_, htrades.ids_nodup extra hids hextra h.ids_nodup, htrades.forall_nodes h.placed hplaced⟩
  rw [hperm.mem_iff, List.mem_append, not_or]
  exact ⟨hextra.ne_empty, h.ids_ne_empty⟩

/-- An edit that only takes ids away and leaves nodes well placed keeps a program valid. -/
theorem of_trades_gone (h : p.Valid) (htrades : p.Trades p' gone come) (extra : List String)
    (hids : (gone.map Node.id).Perm (extra ++ come.map Node.id))
    (hplaced : (∀ n ∈ gone, n.WellPlaced) → ∀ n ∈ come, n.WellPlaced) : p'.Valid := by
  have hperm : p.ids.Perm (extra ++ p'.ids) := htrades.symm.ids_perm hids
  have hsubset : p'.ids ⊆ p.ids := fun x hx => hperm.mem_iff.mpr (List.mem_append_right extra hx)
  exact ⟨fun hempty => h.ids_ne_empty (hsubset hempty), htrades.ids_nodup_of_gone extra hids h.ids_nodup,
    htrades.forall_nodes h.placed hplaced⟩

end Program.Valid

theorem wellPlaced_newDummy (d : Diagram) (position : Position) : (d.newDummy position).WellPlaced :=
  iff_of_true rfl (Or.inr rfl)

/-- A new block and the dummy around it stand where they may. -/
theorem wellPlaced_addedNodes (d : Diagram) (drawn : Nat) {kind : Kind} (hdummy : kind.type ≠ .dummy) :
    ∀ n ∈ d.addedNodes drawn kind, n.WellPlaced := by
  unfold Diagram.addedNodes
  split_ifs with htop
  · rw [List.forall_mem_singleton]
    exact iff_of_true rfl (Or.inl (by rw [Kind.type_own, htop]))
  · rw [List.forall_mem_cons, List.forall_mem_singleton]
    refine ⟨wellPlaced_newDummy d d.spawnPosition, iff_of_false (by simp) ?_⟩
    rw [Kind.type_own]
    exact fun h => h.elim htop hdummy

namespace Program.Valid

/-- A split keeps a program valid. -/
theorem split (d : Diagram) (id : String) (position : Position) (h : d.program.Valid) :
    (d.split id position).2.program.Valid := by
  rcases d.split_cases id position with hsame | ⟨parent, isEmpty, htrades, -⟩
  · rwa [hsame]
  · refine h.of_trades htrades _ (List.Perm.refl _) (d.newIds_newDummy position) fun hgone => ?_
    have hparent : parent.WellPlaced := hgone parent List.mem_cons_self
    rw [List.forall_mem_cons, List.forall_mem_singleton]
    exact ⟨wellPlaced_newDummy d position, hparent⟩

/-- So does a commit. -/
theorem commit (d : Diagram) (hover : String) (snap : SnapType) (dragging : String)
    (h : d.program.Valid) : (d.commit hover snap dragging).2.program.Valid := by
  rcases d.commit_cases h.ids_nodup hover snap dragging with hsame | ⟨holder, parent, -, htrades⟩
  · rwa [hsame]
  · refine h.of_trades_gone htrades [holder.id] (List.Perm.refl _) fun hgone => ?_
    have hparent : parent.WellPlaced := hgone parent (by simp)
    rw [List.forall_mem_singleton]
    exact hparent

/-- So does another position. -/
theorem setPosition (d : Diagram) (id : String) (position : Position) (h : d.program.Valid) :
    (d.setPosition id position).2.program.Valid := by
  rcases d.setPosition_cases id position with hsame | ⟨n, -, htrades⟩
  · rwa [hsame]
  · refine h.of_trades htrades [] (List.Perm.refl _) (Block.newIds_nil _) fun hgone => ?_
    have hn : n.WellPlaced := hgone n List.mem_cons_self
    rw [List.forall_mem_singleton]
    exact hn

/-- So does an addition of a block without children. -/
theorem addBlock (d : Diagram) (drawn : Nat) {kind : Kind} (hdummy : kind.type ≠ .dummy)
    (hchildless : kind.children = []) (h : d.program.Valid) :
    (d.addBlock drawn kind).2.program.Valid := by
  have htrades := d.addBlock_trades drawn kind hchildless
  -- nothing goes, so all ids that come are new
  exact h.of_trades htrades ((d.addedNodes drawn kind).map Node.id)
    (by rw [List.map_nil, List.append_nil]) (d.newIds_addedNodes drawn kind)
    fun _ => wellPlaced_addedNodes d drawn hdummy

/-- So does an update within the type of a block. -/
theorem updateBlock {d d' : Diagram} {id : String} {kind : Kind}
    (htype : ∀ block, d.program.find? id = some block → kind.type = block.type)
    (hupdate : d.updateBlock id kind = .ok d') (h : d.program.Valid) : d'.program.Valid := by
  obtain ⟨block, hfind, hcase⟩ := Diagram.updateBlock_trades hupdate
  obtain ⟨nested, htrades⟩ := hcase (htype block hfind)
  refine h.of_trades htrades [] (List.Perm.refl _) (Block.newIds_nil _) fun hgone => ?_
  have hblock : (block.node nested).WellPlaced := hgone _ List.mem_cons_self
  -- where a block may stand depends on its type alone
  have hsame : kind.own.type = block.own.type := by
    rw [Kind.type_own, Block.type_own, htype block hfind]
  rw [List.forall_mem_singleton]
  rw [Node.WellPlaced] at hblock ⊢
  rw [hsame]
  exact hblock

end Program.Valid

/-! ## Tidiness -/

/-- An edit that takes tidy nodes for tidy ones keeps a valid program tidy. -/
theorem Program.Tidy.of_trades {p p' : Program} {gone come : List Node} (h : p.Tidy) (hvalid : p.Valid)
    (htrades : p.Trades p' gone come)
    (hcome : (∀ n ∈ gone, n.WellPlaced ∧ n.Tidy) → ∀ n ∈ come, n.Tidy) : p'.Tidy := by
  refine htrades.forall_nodes h fun htidy => hcome fun n hn => ?_
  exact ⟨hvalid.placed n (htrades.mem_of_mem_gone hn), htidy n hn⟩

theorem tidy_newDummy (d : Diagram) (position : Position) : (d.newDummy position).Tidy :=
  ⟨fun h => absurd h Bool.false_ne_true, fun _ => rfl⟩

/-- A new block and the dummy around it are tidy. -/
theorem tidy_addedNodes (d : Diagram) (drawn : Nat) {kind : Kind} (hdummy : kind.type ≠ .dummy) :
    ∀ n ∈ d.addedNodes drawn kind, n.Tidy := by
  have hown : kind.own ≠ .container .dummy := by
    intro h
    rw [← Kind.type_own, h] at hdummy
    exact hdummy rfl
  unfold Diagram.addedNodes
  split_ifs with htop
  · rw [List.forall_mem_singleton]
    exact ⟨fun h => absurd h Bool.false_ne_true, fun h => absurd h hown⟩
  · rw [List.forall_mem_cons, List.forall_mem_singleton]
    exact ⟨tidy_newDummy d d.spawnPosition, ⟨fun _ => rfl, fun h => absurd h hown⟩⟩

namespace Program.Tidy

/-- A split keeps a valid program tidy. -/
theorem split (d : Diagram) (id : String) (position : Position) (hvalid : d.program.Valid)
    (h : d.program.Tidy) : (d.split id position).2.program.Tidy := by
  rcases d.split_cases id position with hsame | ⟨parent, isEmpty, htrades, hleft⟩
  · rwa [hsame]
  · refine h.of_trades hvalid htrades fun hgone => ?_
    obtain ⟨hplaced, htidy⟩ := hgone parent List.mem_cons_self
    rw [List.forall_mem_cons, List.forall_mem_singleton]
    refine ⟨tidy_newDummy d position, htidy.position_eq_none, fun hown => ?_⟩
    -- a dummy stands at the top level, so the list is not taken from its first child on
    have hnested : parent.nested = false := hplaced.mpr (Or.inr (by rw [hown]; rfl))
    rw [Bool.eq_false_iff]
    exact fun hempty => hleft hempty hnested hown

/-- So does a commit. -/
theorem commit (d : Diagram) (hover : String) (snap : SnapType) (dragging : String)
    (hvalid : d.program.Valid) (h : d.program.Tidy) :
    (d.commit hover snap dragging).2.program.Tidy := by
  rcases d.commit_cases hvalid.ids_nodup hover snap dragging with hsame | ⟨holder, parent, -, htrades⟩
  · rwa [hsame]
  · refine h.of_trades hvalid htrades fun hgone => ?_
    obtain ⟨-, htidy⟩ := hgone parent (by simp)
    rw [List.forall_mem_singleton]
    exact ⟨htidy.position_eq_none, fun _ => rfl⟩

/-- So does another position. -/
theorem setPosition (d : Diagram) (id : String) (position : Position) (hvalid : d.program.Valid)
    (h : d.program.Tidy) : (d.setPosition id position).2.program.Tidy := by
  rcases d.setPosition_cases id position with hsame | ⟨n, htop, htrades⟩
  · rwa [hsame]
  · refine h.of_trades hvalid htrades fun hgone => ?_
    obtain ⟨-, htidy⟩ := hgone n List.mem_cons_self
    rw [List.forall_mem_singleton]
    refine ⟨fun hnested => ?_, htidy.dummy_nonempty⟩
    rw [show n.nested = true from hnested] at htop
    exact absurd htop.symm Bool.false_ne_true

/-- So does an addition of a block without children. -/
theorem addBlock (d : Diagram) (drawn : Nat) {kind : Kind} (hdummy : kind.type ≠ .dummy)
    (hchildless : kind.children = []) (hvalid : d.program.Valid) (h : d.program.Tidy) :
    (d.addBlock drawn kind).2.program.Tidy :=
  h.of_trades hvalid (d.addBlock_trades drawn kind hchildless) fun _ => tidy_addedNodes d drawn hdummy

/-- So does an update within the type of a block. -/
theorem updateBlock {d d' : Diagram} {id : String} {kind : Kind}
    (htype : ∀ block, d.program.find? id = some block → kind.type = block.type)
    (hupdate : d.updateBlock id kind = .ok d') (hvalid : d.program.Valid) (h : d.program.Tidy) :
    d'.program.Tidy := by
  obtain ⟨block, hfind, hcase⟩ := Diagram.updateBlock_trades hupdate
  obtain ⟨nested, htrades⟩ := hcase (htype block hfind)
  refine h.of_trades hvalid htrades fun hgone => ?_
  obtain ⟨-, htidy⟩ := hgone _ List.mem_cons_self
  rw [List.forall_mem_singleton]
  refine ⟨htidy.position_eq_none, fun hown => htidy.dummy_nonempty ?_⟩
  refine OwnFields.eq_dummy_of_type ?_
  show block.own.type = .dummy
  rw [Block.type_own, ← htype block hfind, ← Kind.type_own, show kind.own = _ from hown]
  rfl

end Program.Tidy

/-! ## Sessions -/

/-- What is carried through a session: the program is valid, and tidy if it was so at the start. -/
structure Program.Kept (start p : Program) : Prop where
  valid : p.Valid
  tidy : start.Tidy → p.Tidy

/-- What is said of all states is kept by moves. -/
theorem Program.Kept.moves (start : Program) : KeptByMoves start.Kept := by
  refine ⟨?_, ?_, ?_⟩
  · exact fun d id position h =>
      ⟨h.valid.split d id position, fun hstart => (h.tidy hstart).split d id position h.valid⟩
  · exact fun d hover snap dragging h =>
      ⟨h.valid.commit d hover snap dragging, fun hstart => (h.tidy hstart).commit d hover snap dragging h.valid⟩
  · exact fun d id position h =>
      ⟨h.valid.setPosition d id position, fun hstart => (h.tidy hstart).setPosition d id position h.valid⟩

/-- One admissible edit keeps what a session keeps. -/
theorem Program.Kept.apply {start : Program} {c : Canvas} {edit : Edit}
    (hadmissible : edit.Admissible c) (h : start.Kept c.diagram.program) :
    start.Kept (c.apply edit).diagram.program := by
  -- additions and updates need what makes them admissible; a move needs nothing
  cases edit with
  | addBlock drawn kind =>
    obtain ⟨hdummy, hchildless⟩ := hadmissible
    exact ⟨h.valid.addBlock c.diagram drawn hdummy hchildless,
      fun hstart => (h.tidy hstart).addBlock c.diagram drawn hdummy hchildless h.valid⟩
  | updateBlock id kind =>
    cases hupdate : c.diagram.updateBlock id kind with
    | error e => simpa only [Canvas.apply, hupdate] using h
    | ok d =>
      have hkept : start.Kept d.program :=
        ⟨h.valid.updateBlock hadmissible hupdate,
          fun hstart => (h.tidy hstart).updateBlock hadmissible hupdate h.valid⟩
      simpa only [Canvas.apply, hupdate] using hkept
  | createDummy position => exact h
  | _ => exact (Program.Kept.moves start).apply trivial h

/-- A session of admissible edits keeps it after each of them. -/
theorem Program.Kept.of_mem_states {start : Program} {c : Canvas} {edits : List Edit}
    (hadmits : c.Admits edits) (h : start.Kept c.diagram.program) :
    ∀ c' ∈ c.states edits, start.Kept c'.diagram.program := by
  induction edits generalizing c with
  | nil => exact fun c' hc' => absurd hc' List.not_mem_nil
  | cons edit rest ih =>
    obtain ⟨hedit, hrest⟩ := hadmits
    -- one-step extension
    have hnext : start.Kept (c.apply edit).diagram.program := h.apply hedit
    rw [Canvas.states, List.forall_mem_cons]
    exact ⟨hnext, ih hrest hnext⟩

/-- No rule is broken after any edit of a session on a program that breaks none, and a tidy program stays
tidy. -/
theorem violations_eq_nil_of_mem_states (d : Diagram) (edits : List Edit)
    (hvalid : d.program.violations = []) (hadmits : (Canvas.ofDiagram d).Admits edits) :
    ∀ c ∈ (Canvas.ofDiagram d).states edits,
      c.diagram.program.violations = [] ∧ (d.program.Tidy → c.diagram.program.Tidy) := by
  intro c hc
  have hstart : d.program.Kept d.program := ⟨d.program.violations_eq_nil_iff.mp hvalid, id⟩
  have hkept := hstart.of_mem_states hadmits c hc
  exact ⟨c.diagram.program.violations_eq_nil_iff.mpr hkept.valid, hkept.tidy⟩

/-- A once block with a log and a loop inside it. -/
def Diagram.loopInOnce : Diagram :=
  .ofProgram ⟨[.container "setup" none .once
    [.statement "a" none (.log (.text "a")),
      .container "r" none (.loop 2) [.statement "b" none (.sleep (.number (.int 5)))]]]⟩ defaultSpawnPosition

/-- Edits that count the loop anew, add a log, split the loop off, and put it in front of the log by which it
stood. -/
def Edit.loopSession : List Edit :=
  [.updateBlock "r" (.container (.loop 3) []), .addBlock 7 (.statement (.log (.text "new"))),
    .split "r" ⟨1, 2⟩, .commit "setup" .inner "r", .pointerDown ⟨fun _ => [], fun _ => none⟩ "b" ⟨0, 0⟩,
    .pointerMove ⟨fun _ => ["a"], fun _ => none⟩ ⟨3, 4⟩, .pointerUp]

/-- A loop is added, updated and dragged into the once container, step by step. -/
theorem violations_eq_nil_of_mem_states_loopSession :
    Diagram.loopInOnce.program.violations = [] ∧
      (Canvas.ofDiagram .loopInOnce).Admits Edit.loopSession ∧ Diagram.loopInOnce.program.Tidy ∧
      ∀ c ∈ (Canvas.ofDiagram .loopInOnce).states Edit.loopSession,
        c.diagram.program.violations = [] ∧ c.diagram.program.Tidy := by
  have hadmits : (Canvas.ofDiagram .loopInOnce).Admits Edit.loopSession := by
    refine ⟨?_, ⟨by decide, rfl⟩, trivial, trivial, trivial, trivial, trivial, trivial⟩
    rintro block ⟨⟩
    rfl
  -- no block has a position and none is a dummy
  have htidy : Diagram.loopInOnce.program.Tidy := by
    have hnodes : ∀ n ∈ Diagram.loopInOnce.program.nodes,
        n.position.isNone = true ∧ n.own.type ≠ .dummy := by decide
    intro n hn
    obtain ⟨hposition, htype⟩ := hnodes n hn
    exact ⟨fun _ => Option.isNone_iff_eq_none.mp hposition, fun hown => absurd (by rw [hown]; rfl) htype⟩
  refine ⟨rfl, hadmits, htidy, fun c hc => ?_⟩
  obtain ⟨hvalid, hkept⟩ := violations_eq_nil_of_mem_states .loopInOnce Edit.loopSession rfl hadmits c hc
  exact ⟨hvalid, hkept htidy⟩

end Signalbox
