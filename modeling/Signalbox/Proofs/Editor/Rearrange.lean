import Signalbox.Proofs.Editor.Gesture
import Signalbox.Run.World

/-!
# Rearranging the canvas

A top-level block that gets another position is also raised to the end of the list, whether its position is set
or it is dragged. A run looks for the first once container and for the first forever container of the same list.
What a program does is therefore the same after its canvas was rearranged, unless the block that was raised is
one of these two and there is another container of its type: then that one comes first from now on.

Main results:

* `Run.execute_congr`: a run depends on two lists of children only.
* `Canvas.exists_setPosition_eq_run_gesture`: to drag a top-level block is to set its position.
* `Canvas.rearranges_of_topLevel`: how a program runs after a top-level block was moved.
-/

namespace Signalbox

namespace Run

/-- A run depends on the children of the first once container and of the first forever container, and on nothing
else of a program. -/
theorem execute_congr {m : Type → Type} [Monad m] (host : Host m) (patience : Nat) {p q : Program}
    (honce : childrenOf q .once = childrenOf p .once)
    (hforever : childrenOf q .forever = childrenOf p .forever) :
    execute host patience q = execute host patience p := by
  unfold execute runProgram
  rw [honce, hforever]

end Run

namespace Program

/-- In all surroundings the two programs run alike: with the same outcome and into the same world, the events,
the commands delivered and the devices included. -/
def RunsLike (q p : Program) : Prop :=
  ∀ (σ : Type) (env : Environment σ) (patience : Nat) (w : World σ),
    env.execute patience q w = env.execute patience p w

/-- The block with an id is the first of several top-level blocks of a type. -/
structure ComesFirst (p : Program) (id : String) (type : BlockType) : Prop where
  first : (p.firstOfType? type).map Block.id = some id
  other : ∃ block ∈ p.blocks, block.type = type ∧ block.id ≠ id

/-- The program without the first top-level block with an id. -/
def without (p : Program) (id : String) : Program :=
  ⟨p.blocks.eraseP (·.id = id)⟩

/-- How a program `q` runs that has come of `p` by raising the block with an id: as `p` does, or, when the block
was the first of several once containers or of several forever containers, as `p` does without it. -/
structure Rearranges (p : Program) (id : String) (q : Program) : Prop where
  same : ¬ (p.ComesFirst id .once ∨ p.ComesFirst id .forever) → q.RunsLike p
  other : p.ComesFirst id .once ∨ p.ComesFirst id .forever → q.RunsLike (p.without id)

/-- Programs with the same blocks to run run alike. -/
theorem runsLike_of_childrenOf {p q : Program} (honce : Run.childrenOf q .once = Run.childrenOf p .once)
    (hforever : Run.childrenOf q .forever = Run.childrenOf p .forever) : q.RunsLike p :=
  fun _ env patience w => congrFun (Run.execute_congr env.host patience honce hforever) w

end Program

/-! ## Raising a block -/

namespace Block

theorem type_withPosition (block : Block) (position : Position) : (block.withPosition position).type = block.type := by
  cases block <;> rfl

theorem id_withPosition (block : Block) (position : Position) : (block.withPosition position).id = block.id := by
  cases block <;> rfl

theorem withPosition_withPosition (block : Block) (first second : Position) :
    (block.withPosition first).withPosition second = block.withPosition second := by
  cases block <;> rfl

/-- A block that no other one in front of it shares the id with is the one taken out. -/
theorem removeFrom?_append_cons {id : String} {front : List Block} (hfront : ∀ block ∈ front, block.id ≠ id)
    {block : Block} (hid : block.id = id) (back : List Block) :
    removeFrom? id (front ++ block :: back) = some (block, front ++ back) := by
  induction front with
  | nil => rw [List.nil_append, removeFrom?, if_pos hid, List.nil_append]
  | cons head front ih =>
    obtain ⟨hhead, hfront⟩ := List.forall_mem_cons.mp hfront
    rw [List.cons_append, removeFrom?, if_neg hhead, ih hfront]
    rfl

/-- The top-level block with an id, and the others on both sides of it. -/
theorem exists_eq_append_of_hasChild {id : String} {blocks : List Block} (hids : (blocks.map Block.id).Nodup)
    (h : hasChild id blocks = true) :
    ∃ front block back, blocks = front ++ block :: back ∧ block.id = id ∧
      (∀ other ∈ front, other.id ≠ id) ∧ ∀ other ∈ back, other.id ≠ id := by
  obtain ⟨block, hmem, hid⟩ := List.any_eq_true.mp h
  obtain rfl : block.id = id := of_decide_eq_true hid
  obtain ⟨front, back, rfl⟩ := List.append_of_mem hmem
  rw [List.map_append, List.map_cons, List.nodup_middle, List.nodup_cons, List.mem_append, not_or] at hids
  refine ⟨front, block, back, rfl, rfl, fun other hother heq => ?_, fun other hother heq => ?_⟩
  · exact hids.1.1 (List.mem_map.mpr ⟨other, hother, heq⟩)
  · exact hids.1.2 (List.mem_map.mpr ⟨other, hother, heq⟩)

end Block

section

variable {id : String} {front back : List Block} {block : Block} {type : BlockType}

/-- The first block of a type, when one of the blocks stands between two lists. -/
theorem Program.firstOfType?_append_cons (front : List Block) (block : Block) (back : List Block)
    (type : BlockType) : Program.firstOfType? ⟨front ++ block :: back⟩ type =
      (front.find? (·.type = type)).or
        (if block.type = type then some block else back.find? (·.type = type)) := by
  show (front ++ block :: back).find? _ = _
  rw [List.find?_append, List.find?_cons]
  by_cases htype : block.type = type <;> simp [htype]

/-- The first block of a type, when one of the blocks stands at the end. -/
theorem Program.firstOfType?_append_singleton (rest : List Block) (block : Block) (type : BlockType) :
    Program.firstOfType? ⟨rest ++ [block]⟩ type =
      (Program.firstOfType? ⟨rest⟩ type).or (if block.type = type then some block else none) :=
  firstOfType?_append_cons rest block [] type

/-- A block comes first among several of a type if none of the type stands in front of it, and another one
after it. -/
theorem Program.comesFirst_iff (hid : block.id = id) (hfront : ∀ other ∈ front, other.id ≠ id)
    (hback : ∀ other ∈ back, other.id ≠ id) :
    ComesFirst ⟨front ++ block :: back⟩ id type ↔
      block.type = type ∧ front.find? (·.type = type) = none ∧ ∃ other ∈ back, other.type = type := by
  constructor
  · rintro ⟨hfirst, other, hmem, hother, hne⟩
    rw [firstOfType?_append_cons] at hfirst
    cases hfound : front.find? (·.type = type) with
    | some found =>
      rw [hfound, Option.some_or, Option.map_some] at hfirst
      exact absurd (Option.some.inj hfirst) (hfront found (List.mem_of_find?_eq_some hfound))
    | none =>
      have hnone := List.find?_eq_none.mp hfound
      have hmemBack : other ∈ back := by
        rcases List.mem_append.mp hmem with hmem | hmem
        · exact absurd hother (by simpa using hnone other hmem)
        · rcases List.mem_cons.mp hmem with rfl | hmem
          · exact absurd hid hne
          · exact hmem
      refine ⟨?_, rfl, other, hmemBack, hother⟩
      -- otherwise the first one stands behind the block
      by_contra htype
      rw [hfound, Option.none_or, if_neg htype] at hfirst
      obtain ⟨found, hfoundBack, hfoundId⟩ := Option.map_eq_some_iff.mp hfirst
      exact hback found (List.mem_of_find?_eq_some hfoundBack) hfoundId
  · rintro ⟨htype, hnone, other, hmem, hother⟩
    refine ⟨?_, other, ?_, hother, hback other hmem⟩
    · rw [firstOfType?_append_cons, hnone, Option.none_or, if_pos htype, Option.map_some, hid]
    · exact List.mem_append_right _ (List.mem_cons_of_mem _ hmem)

/-- A block that is raised gives way to no other one, when it does not come first among several of the type. -/
theorem Run.childrenOf_raise (hid : block.id = id) (hfront : ∀ other ∈ front, other.id ≠ id)
    (hback : ∀ other ∈ back, other.id ≠ id) (h : ¬ Program.ComesFirst ⟨front ++ block :: back⟩ id type)
    (position : Position) :
    childrenOf ⟨(front ++ back) ++ [block.withPosition position]⟩ type =
      childrenOf ⟨front ++ block :: back⟩ type := by
  have hrest : Program.firstOfType? ⟨front ++ back⟩ type =
      (front.find? (·.type = type)).or (back.find? (·.type = type)) := List.find?_append
  rw [childrenOf, childrenOf, Program.firstOfType?_append_singleton, Program.firstOfType?_append_cons, hrest,
    Block.type_withPosition]
  cases hfrontFound : front.find? (·.type = type) with
  | some found => rfl
  | none =>
    by_cases htype : block.type = type
    · -- no other block of the type stands behind this one
      have hnone : back.find? (·.type = type) = none :=
        List.find?_eq_none.mpr fun other hmem hother => h
          ((Program.comesFirst_iff hid hfront hback).mpr ⟨htype, hfrontFound, other, hmem, of_decide_eq_true hother⟩)
      simp only [hnone, htype, if_true, Option.none_or]
      exact Block.children_withPosition block position
    · simp only [htype, if_false, Option.none_or, Option.or_none]

/-- A block that is raised is not looked at when others of its type stand in front of it, or when its type is not
the one looked for. -/
theorem Run.childrenOf_append_singleton {rest : List Block}
    (h : block.type = type → ∃ other ∈ rest, other.type = type) :
    childrenOf ⟨rest ++ [block]⟩ type = childrenOf ⟨rest⟩ type := by
  rw [childrenOf, childrenOf, Program.firstOfType?_append_singleton]
  by_cases htype : block.type = type
  · obtain ⟨other, hmem, hother⟩ := h htype
    have hsome : (Program.firstOfType? ⟨rest⟩ type).isSome = true :=
      List.find?_isSome.mpr ⟨other, hmem, decide_eq_true hother⟩
    obtain ⟨first, hfirst⟩ := Option.isSome_iff_exists.mp hsome
    rw [hfirst, Option.some_or]
  · rw [if_neg htype, Option.or_none]

/-- How a program runs after one of its top-level blocks was raised. -/
theorem Program.rearranges_raise (hid : block.id = id) (hfront : ∀ other ∈ front, other.id ≠ id)
    (hback : ∀ other ∈ back, other.id ≠ id) (position : Position) :
    Rearranges ⟨front ++ block :: back⟩ id ⟨(front ++ back) ++ [block.withPosition position]⟩ := by
  constructor
  · intro h
    rw [not_or] at h
    exact runsLike_of_childrenOf (Run.childrenOf_raise hid hfront hback h.1 position)
      (Run.childrenOf_raise hid hfront hback h.2 position)
  · intro h
    have hwithout : without ⟨front ++ block :: back⟩ id = ⟨front ++ back⟩ := by
      rw [without, List.eraseP_append_right _ (by simpa using hfront),
        List.eraseP_cons_of_pos (by simpa using hid)]
    rw [hwithout]
    -- there is another container of the type of the block, and its own type is no other one
    have hother (looked : BlockType) (htype : (block.withPosition position).type = looked) :
        ∃ other ∈ front ++ back, other.type = looked := by
      rw [Block.type_withPosition] at htype
      rcases h with hfirst | hfirst <;>
        obtain ⟨hblock, -, other, hmem, hotherType⟩ := (comesFirst_iff hid hfront hback).mp hfirst <;>
        exact ⟨other, List.mem_append_right _ hmem, by rw [hotherType, ← hblock, htype]⟩
    exact runsLike_of_childrenOf (Run.childrenOf_append_singleton (hother .once))
      (Run.childrenOf_append_singleton (hother .forever))

end

/-! ## Positions and gestures -/

namespace Diagram

variable {d : Diagram} {id : String}

/-- The program in which a top-level block was raised to another position. -/
theorem exists_setPosition_eq (hvalid : d.program.Valid) (htop : d.program.isTopLevel id = true) :
    ∃ front block back, d.program.blocks = front ++ block :: back ∧ block.id = id ∧
      (∀ other ∈ front, other.id ≠ id) ∧ (∀ other ∈ back, other.id ≠ id) ∧ ∀ position,
        d.setPosition id position =
          (true, { d with program := ⟨(front ++ back) ++ [block.withPosition position]⟩ }) := by
  have hids : (d.program.blocks.map Block.id).Nodup := (Block.map_id_sublist_idsIn _).nodup hvalid.ids_nodup
  obtain ⟨front, block, back, hblocks, hid, hfront, hback⟩ := Block.exists_eq_append_of_hasChild hids htop
  refine ⟨front, block, back, hblocks, hid, hfront, hback, fun position => ?_⟩
  rw [setPosition, hblocks, Block.removeFrom?_append_cons hfront hid]

/-- A block that is moved about at the top level is raised, and no other one changes. -/
theorem rearranges_setPosition (hvalid : d.program.Valid) (htop : d.program.isTopLevel id = true)
    (position : Position) : d.program.Rearranges id (d.setPosition id position).2.program := by
  obtain ⟨front, block, back, hblocks, hid, hfront, hback, hset⟩ := exists_setPosition_eq hvalid htop
  have hp : d.program = ⟨front ++ block :: back⟩ := by rw [← hblocks]
  rw [hset, hp]
  exact Program.rearranges_raise hid hfront hback position

/-- A position that is replaced is forgotten. -/
theorem setPosition_setPosition (hvalid : d.program.Valid) (htop : d.program.isTopLevel id = true)
    (first second : Position) : (d.setPosition id first).2.setPosition id second = d.setPosition id second := by
  obtain ⟨front, block, back, -, hid, hfront, hback, hset⟩ := exists_setPosition_eq hvalid htop
  have hothers : ∀ other ∈ front ++ back, other.id ≠ id := by
    intro other hmem
    rcases List.mem_append.mp hmem with hmem | hmem
    · exact hfront other hmem
    · exact hback other hmem
  rw [hset first, hset second, setPosition,
    Block.removeFrom?_append_cons hothers (by rw [Block.id_withPosition, hid])]
  simp only [List.append_nil, Block.withPosition_withPosition]

/-- It still stands at the top level. -/
theorem isTopLevel_setPosition (hvalid : d.program.Valid) (htop : d.program.isTopLevel id = true)
    (position : Position) : (d.setPosition id position).2.program.isTopLevel id = true := by
  obtain ⟨front, block, back, -, hid, -, -, hset⟩ := exists_setPosition_eq hvalid htop
  rw [hset, Program.isTopLevel, Block.hasChild, List.any_append]
  simp [Block.id_withPosition, hid]

theorem contains_of_isTopLevel (htop : d.program.isTopLevel id = true) : d.program.contains id = true := by
  rw [Program.contains_iff]
  exact (Block.map_id_sublist_idsIn _).subset (List.mem_map.mpr ((Block.hasChild_iff id d.program.blocks).mp htop))

/-- A move of a top-level block sets its position and shows no target. -/
theorem exists_pointerMove_eq {session : DragSession} (htop : d.program.isTopLevel session.dragged = true)
    (hdummy : session.dummy = none) (geometry : Geometry) (pointer : Position) :
    ∃ position, d.pointerMove geometry session pointer =
      (.ok none, { session with hover := none }, (d.setPosition session.dragged position).2) := by
  refine ⟨session.initial.offset (pointer.x - session.anchor.x) (pointer.y - session.anchor.y), ?_⟩
  unfold pointerMove
  rw [if_neg (by rw [contains_of_isTopLevel htop]; exact not_not_intro rfl)]
  simp only [htop, hdummy, not_true_eq_false, and_false, if_false, Option.getD_none]

end Diagram

/-- A gesture on a block: the pointer goes down on it, moves, and goes up. -/
def gesture (geometry : Geometry) (id : String) (pointer : Position) (moves : List (Geometry × Position)) :
    List Edit :=
  .pointerDown geometry id pointer :: ((moves.map fun move => .pointerMove move.1 move.2) ++ [.pointerUp])

/-- A gesture that has only moved a top-level block. -/
structure DragSession.Raises (session : DragSession) (id : String) : Prop where
  dragged : session.dragged = id
  dummy : session.dummy = none
  hover : session.hover = none

namespace Canvas

variable {c : Canvas} {id : String}

theorem run_cons (c : Canvas) (edit : Edit) (rest : List Edit) : c.run (edit :: rest) = (c.apply edit).run rest :=
  rfl

theorem run_append (c : Canvas) (edits edits' : List Edit) : c.run (edits ++ edits') = (c.run edits).run edits' :=
  List.foldl_append

/-- Moves of a top-level block come to setting its position once. -/
theorem exists_run_moves_eq (hvalid : c.diagram.program.Valid) (htop : c.diagram.program.isTopLevel id = true)
    {session : DragSession} (hsession : c.session = some session) (hraises : session.Raises id)
    (moves : List (Geometry × Position)) :
    ∃ session' : DragSession, session'.hover = none ∧
      (c.run (moves.map fun move => .pointerMove move.1 move.2)).session = some session' ∧
      (moves = [] → (c.run (moves.map fun move => .pointerMove move.1 move.2)).diagram = c.diagram) ∧
      (moves ≠ [] → ∃ position, (c.run (moves.map fun move => .pointerMove move.1 move.2)).diagram =
        (c.diagram.setPosition id position).2) := by
  -- along the moves: each one only gives the block another position
  induction moves generalizing c session with
  | nil => exact ⟨session, hraises.hover, hsession, fun _ => rfl, fun h => absurd rfl h⟩
  | cons move rest ih =>
    obtain ⟨rfl, hdummy, -⟩ := hraises
    obtain ⟨position, hmove⟩ := Diagram.exists_pointerMove_eq htop hdummy move.1 move.2
    have hafter : c.apply (.pointerMove move.1 move.2) =
        ⟨(c.diagram.setPosition session.dragged position).2, some { session with hover := none }⟩ := by
      show (c.pointerMove move.1 move.2).2 = _
      rw [Canvas.pointerMove, hsession]
      simp only [hmove]
    rw [List.map_cons, run_cons, hafter]
    obtain ⟨session', hhover, hsession', hnil, hcons⟩ :=
      ih (c := ⟨(c.diagram.setPosition session.dragged position).2, some { session with hover := none }⟩)
        (Program.Valid.setPosition _ _ _ hvalid) (Diagram.isTopLevel_setPosition hvalid htop position) rfl ⟨rfl, hdummy, rfl⟩
    refine ⟨session', hhover, hsession', fun h => (nomatch h), fun _ => ?_⟩
    by_cases hrest : rest = []
    · exact ⟨position, hnil hrest⟩
    · -- a later position replaces this one
      obtain ⟨last, hlast⟩ := hcons hrest
      exact ⟨last, hlast.trans (congrArg Prod.snd (Diagram.setPosition_setPosition hvalid htop position last))⟩

/-- A gesture on a top-level block without moves does nothing, and one with moves sets its position. -/
theorem exists_setPosition_eq_run_gesture (hvalid : c.diagram.program.Valid)
    (htop : c.diagram.program.isTopLevel id = true) (geometry : Geometry) (pointer : Position)
    (moves : List (Geometry × Position)) :
    (moves = [] → (c.run (gesture geometry id pointer moves)).diagram = c.diagram) ∧
    (moves ≠ [] → ∃ position,
      (c.run (gesture geometry id pointer moves)).diagram = (c.diagram.setPosition id position).2) := by
  obtain ⟨block, hfind⟩ := Option.isSome_iff_exists.mp (Diagram.contains_of_isTopLevel htop)
  obtain ⟨session, hsession⟩ : ∃ session, c.diagram.pointerDown? geometry id pointer = some session :=
    ⟨_, Option.map_eq_some_iff.mpr ⟨block, hfind, rfl⟩⟩
  -- the press starts a session that raises the block
  have hraises : session.Raises id := by
    obtain ⟨_, -, rfl⟩ := Option.map_eq_some_iff.mp hsession
    exact ⟨rfl, rfl, rfl⟩
  have hdown : c.apply (.pointerDown geometry id pointer) = { c with session := some session } := by
    show (c.pointerDown geometry id pointer).2 = _
    rw [Canvas.pointerDown, hsession]
  obtain ⟨session', hhover, hsession', hnil, hcons⟩ :=
    exists_run_moves_eq (c := { c with session := some session }) hvalid htop rfl hraises moves
  -- the release drops nothing, since no target was shown
  have hrun : (c.run (gesture geometry id pointer moves)).diagram =
      (Canvas.run { c with session := some session } (moves.map fun move => .pointerMove move.1 move.2)).diagram := by
    rw [gesture, run_cons, hdown, run_append]
    show (Canvas.pointerUp _).2.diagram = _
    rw [Canvas.pointerUp, hsession']
    simp only [Diagram.pointerUp, hhover]
  rw [hrun]
  exact ⟨hnil, hcons⟩

/-- After a top-level block of a valid program was moved, by setting its position or by a gesture of any moves
and with any layouts, the program runs as before in all surroundings. The exception is a block that came first
among several once containers or among several forever containers: it then comes last, and the program runs as
it did without the block. A gesture without moves changes nothing. -/
theorem rearranges_of_topLevel (c : Canvas) {id : String} (hvalid : c.diagram.program.violations = [])
    (htop : c.diagram.program.isTopLevel id = true) :
    (∀ position, c.diagram.program.Rearranges id (c.apply (.setPosition id position)).diagram.program) ∧
    ∀ geometry pointer moves,
      (moves = [] → (c.run (gesture geometry id pointer moves)).diagram.program = c.diagram.program) ∧
      (moves ≠ [] →
        c.diagram.program.Rearranges id (c.run (gesture geometry id pointer moves)).diagram.program) := by
  rw [Program.violations_eq_nil_iff] at hvalid
  have hset (position : Position) := Diagram.rearranges_setPosition hvalid htop position
  refine ⟨hset, fun geometry pointer moves => ?_⟩
  obtain ⟨hnil, hcons⟩ := exists_setPosition_eq_run_gesture hvalid htop geometry pointer moves
  refine ⟨fun h => by rw [hnil h], fun h => ?_⟩
  obtain ⟨position, hposition⟩ := hcons h
  rw [hposition]
  exact hset position

end Canvas

/-! ## Two once containers -/

/-- Two once containers, of which only the first is run. -/
def Canvas.twoSetups : Canvas :=
  .ofDiagram (.ofProgram ⟨[.container "first" none .once [.statement "a" none (.log (.text "a"))],
    .container "second" none .once [.statement "b" none (.log (.text "b"))]]⟩ defaultSpawnPosition)

/-- The second one can be dragged about, and the program runs as before. When the first one is dragged, the
program runs as if it were not there. -/
theorem Canvas.rearranges_of_topLevel_twoSetups :
    let p := twoSetups.diagram.program
    let drag (id : String) := gesture ⟨fun _ => [], fun _ => none⟩ id ⟨0, 0⟩ [(⟨fun _ => [], fun _ => none⟩, ⟨7, 8⟩)]
    p.violations = [] ∧ p.isTopLevel "second" = true ∧ p.isTopLevel "first" = true ∧
      (twoSetups.run (drag "second")).diagram.program.RunsLike p ∧
      (twoSetups.run (drag "first")).diagram.program.RunsLike (p.without "first") := by
  intro p drag
  have hvalid : p.violations = [] := by decide
  have hsecond : p.isTopLevel "second" = true := by decide
  have hfirst : p.isTopLevel "first" = true := by decide
  refine ⟨hvalid, hsecond, hfirst, ?_, ?_⟩
  · -- the second setup container is not the one that runs, so raising it changes nothing
    refine (((rearranges_of_topLevel twoSetups hvalid hsecond).2 _ _ _).2 (List.cons_ne_nil _ _)).same ?_
    rintro (h | h)
    · exact absurd h.first (by decide)
    · exact absurd h.first (by decide)
  · -- the first one is, and once it is raised the second one runs
    refine (((rearranges_of_topLevel twoSetups hvalid hfirst).2 _ _ _).2 (List.cons_ne_nil _ _)).other (.inl ?_)
    exact ⟨by decide, _, List.mem_cons_of_mem _ List.mem_cons_self, by decide, by decide⟩

/-- A program does not always run as before when a top-level block was moved: of two once containers the other
one is run then. -/
theorem Canvas.not_runsLike_twoSetups :
    let p := twoSetups.diagram.program
    p.violations = [] ∧ p.isTopLevel "first" = true ∧
      ¬ (twoSetups.apply (.setPosition "first" ⟨1, 2⟩)).diagram.program.RunsLike p := by
  intro p
  refine ⟨by decide, by decide, fun h => ?_⟩
  let env : Environment Unit :=
    { tick := 1, maxPasses := none, notices := fun _ => true, react := fun _ w => ⟨(), w.devices, false⟩
      foreign? := fun _ => none, channel := none }
  have hevents := congrArg (fun r => r.2.past.contains (.active (some "a"))) (h Unit env 0 (.start () true .empty))
  exact absurd hevents (by decide)

end Signalbox
