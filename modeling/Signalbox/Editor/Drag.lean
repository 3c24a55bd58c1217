import Signalbox.Editor.Diagram
import Signalbox.Snap.Catalog

/-!
# Dragging

A gesture begins when the pointer goes down on a block, follows its moves, and ends when it goes up. The
first move of a block inside another one splits it off; every move looks for the block below the pointer
where the list could snap, and the end of the gesture commits it there. A `Canvas` is a diagram together
with the gesture under way on it.
-/

namespace Signalbox

/-- The layout on the canvas: the ids of the blocks drawn at a point, the topmost first, and the boxes. -/
structure Geometry where
  blocksAt : Position → List String
  boundingBox? : String → Option BoundingBox

/-- Where a list would snap if it were dropped. -/
structure HoverTarget where
  id : String
  snap : SnapType
  deriving DecidableEq, Repr

/-- A gesture under way. -/
structure DragSession where
  dragged : String
  /-- The dummy that the block was split off into. -/
  dummy : Option String
  /-- Where the pointer went down. -/
  anchor : Position
  /-- Where the dragged block was then. -/
  initial : Position
  hover : Option HoverTarget
  deriving Repr

namespace Diagram

/-- Begins a gesture on a block, if there is one with the id. -/
def pointerDown? (d : Diagram) (geometry : Geometry) (id : String) (pointer : Position) :
    Option DragSession :=
  (d.program.find? id).map fun block =>
    let drawn := (geometry.boundingBox? id).map fun box => (⟨box.x, box.y⟩ : Position)
    { dragged := id
      dummy := none
      anchor := pointer
      initial := (block.position.or drawn).getD pointer
      hover := none }

/-- The target below the pointer: the topmost block that does not move along, if it offers an anchor. -/
def hover? (d : Diagram) (geometry : Geometry) (dragged : String) (pointer : Position) :
    Option HoverTarget := do
  let moves (id : String) : Bool :=
    id = dragged ||
      (match d.dummyFor? dragged with
      | some dummy => id = dummy.id || (Block.findIn? id dummy.children).isSome
      | none => false)
  let id ← (geometry.blocksAt pointer).find? (¬ moves ·)
  let block ← d.program.find? id
  let box ← geometry.boundingBox? id
  let point ← Resolved.choose? (block.type.snapPoints.map (·.resolve box)) pointer.y
  return ⟨id, point.type⟩

/-- Follows the pointer: the target below it, the gesture and the diagram after the move. -/
def pointerMove (d : Diagram) (geometry : Geometry) (session : DragSession) (pointer : Position) :
    Except EditError (Option HoverTarget) × DragSession × Diagram :=
  if ¬ d.program.contains session.dragged then (.ok none, session, d)
  else
    let splittable := ¬ d.program.isTopLevel session.dragged
    let follow (session : DragSession) (d : Diagram) :
        Except EditError (Option HoverTarget) × DragSession × Diagram :=
      let hover := if splittable then d.hover? geometry session.dragged pointer else none
      (.ok hover, { session with hover }, d)
    if session.dummy.isNone ∧ splittable then
      match d.split session.dragged session.initial with
      | (.error e, d) => (.error e, session, d)
      | (.ok dummy, d) =>
        let (_, d) := d.setPosition dummy session.initial
        follow { session with dummy := some dummy } d
    else
      let moved := session.dummy.getD session.dragged
      let (_, d) := d.setPosition moved
        (session.initial.offset (pointer.x - session.anchor.x) (pointer.y - session.anchor.y))
      follow session d

/-- Ends a gesture: a list over a target is committed there. -/
def pointerUp (d : Diagram) (session : DragSession) : Option SnapOutcome × Diagram :=
  match session.hover with
  | none => (none, d)
  | some hover =>
    let (outcome, d) := d.commit hover.id hover.snap session.dragged
    (some outcome, d)

end Diagram

/-- A diagram and the gesture under way on it. -/
structure Canvas where
  diagram : Diagram
  session : Option DragSession
  deriving Repr

namespace Canvas

/-- The canvas of a diagram that nothing is dragged on. -/
def ofDiagram (d : Diagram) : Canvas := ⟨d, none⟩

/-- The pointer goes down on a block. Where there is none with the id, the gesture under way goes on. -/
def pointerDown (c : Canvas) (geometry : Geometry) (id : String) (pointer : Position) : Bool × Canvas :=
  match c.diagram.pointerDown? geometry id pointer with
  | some session => (true, { c with session := some session })
  | none => (false, c)

/-- The pointer moves. -/
def pointerMove (c : Canvas) (geometry : Geometry) (pointer : Position) :
    Except EditError (Option HoverTarget) × Canvas :=
  match c.session with
  | none => (.ok none, c)
  | some session =>
    let (outcome, session, diagram) := c.diagram.pointerMove geometry session pointer
    (outcome, ⟨diagram, some session⟩)

/-- The pointer goes up. -/
def pointerUp (c : Canvas) : Option SnapOutcome × Canvas :=
  match c.session with
  | none => (none, c)
  | some session =>
    let (outcome, diagram) := c.diagram.pointerUp session
    (outcome, ⟨diagram, none⟩)

end Canvas

end Signalbox
