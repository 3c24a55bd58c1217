import Signalbox.Editor.Drag

/-!
# Editing sessions

A canvas changes by the edits of its diagram and by the events of gestures, in any order and with arguments
of any kind: ids may name no block, and the layout may be another one at every event. `Canvas.run` takes a
canvas through a list of them and `Canvas.states` gives the canvas after each.
-/

namespace Signalbox

/-- An edit of a diagram, or an event of a gesture. -/
inductive Edit where
  | addBlock (drawn : Nat) (kind : Kind)
  | split (id : String) (position : Position)
  | commit (hover : String) (snap : SnapType) (dragging : String)
  | setPosition (id : String) (position : Position)
  | createDummy (position : Position)
  | updateBlock (id : String) (kind : Kind)
  | pointerDown (geometry : Geometry) (id : String) (pointer : Position)
  | pointerMove (geometry : Geometry) (pointer : Position)
  | pointerUp

namespace Canvas

/-- The canvas after an edit. An edit that fails changes what it changes up to there. -/
def apply (c : Canvas) : Edit → Canvas
  | .addBlock drawn kind => { c with diagram := (c.diagram.addBlock drawn kind).2 }
  | .split id position => { c with diagram := (c.diagram.split id position).2 }
  | .commit hover snap dragging => { c with diagram := (c.diagram.commit hover snap dragging).2 }
  | .setPosition id position => { c with diagram := (c.diagram.setPosition id position).2 }
  | .createDummy position => { c with diagram := (c.diagram.createDummy position).2 }
  | .updateBlock id kind =>
    match c.diagram.updateBlock id kind with
    | .ok diagram => { c with diagram }
    | .error _ => c
  | .pointerDown geometry id pointer => (c.pointerDown geometry id pointer).2
  | .pointerMove geometry pointer => (c.pointerMove geometry pointer).2
  | .pointerUp => c.pointerUp.2

/-- The canvas after a list of edits. -/
def run (c : Canvas) (edits : List Edit) : Canvas :=
  edits.foldl apply c

/-- The canvas after each of a list of edits. -/
def states (c : Canvas) : List Edit → List Canvas
  | [] => []
  | edit :: rest => c.apply edit :: (c.apply edit).states rest

end Canvas

/-! ## Gestures as edits -/

/-- A property of programs that the edits which gestures are made of keep. -/
structure KeptByMoves (P : Program → Prop) : Prop where
  split : ∀ (d : Diagram) id position, P d.program → P (d.split id position).2.program
  commit : ∀ (d : Diagram) hover snap dragging, P d.program → P (d.commit hover snap dragging).2.program
  setPosition : ∀ (d : Diagram) id position, P d.program → P (d.setPosition id position).2.program

namespace KeptByMoves

variable {P : Program → Prop}

/-- What moves keep is kept when the pointer moves. -/
theorem pointerMove (h : KeptByMoves P) (d : Diagram) (geometry : Geometry) (session : DragSession)
    (pointer : Position) (hp : P d.program) :
    P (d.pointerMove geometry session pointer).2.2.program := by
  unfold Diagram.pointerMove
  split
  next => exact hp
  next =>
    dsimp only
    split
    next =>
      -- the first move of a nested block splits it off and places the dummy
      have hsplit := h.split d session.dragged session.initial hp
      cases hresult : d.split session.dragged session.initial with
      | mk outcome split =>
        rw [hresult] at hsplit
        cases outcome with
        | error e => exact hsplit
        | ok dummy => exact h.setPosition split dummy session.initial hsplit
    next => exact h.setPosition d _ _ hp

/-- So it is when the pointer goes up. -/
theorem pointerUp (h : KeptByMoves P) (d : Diagram) (session : DragSession) (hp : P d.program) :
    P (d.pointerUp session).2.program := by
  unfold Diagram.pointerUp
  split
  next => exact hp
  next hover _ => exact h.commit d hover.id hover.snap session.dragged hp

end KeptByMoves

/-- The edits that only move blocks about. -/
def Edit.Moves : Edit → Prop
  | .addBlock .. | .createDummy .. | .updateBlock .. => False
  | _ => True

/-- A property that the edits of gestures keep is kept by every edit that only moves blocks about. -/
theorem KeptByMoves.apply {P : Program → Prop} (h : KeptByMoves P) {c : Canvas} {edit : Edit}
    (hmoves : edit.Moves) (hp : P c.diagram.program) : P (c.apply edit).diagram.program := by
  -- three of the edits are no moves; each of the others has its own field
  cases edit with
  | addBlock drawn kind => exact hmoves.elim
  | createDummy position => exact hmoves.elim
  | updateBlock id kind => exact hmoves.elim
  | split id position => exact h.split c.diagram id position hp
  | commit hover snap dragging => exact h.commit c.diagram hover snap dragging hp
  | setPosition id position => exact h.setPosition c.diagram id position hp
  | pointerDown geometry id pointer =>
    show P (c.pointerDown geometry id pointer).2.diagram.program
    unfold Canvas.pointerDown
    split <;> exact hp
  | pointerMove geometry pointer =>
    show P (c.pointerMove geometry pointer).2.diagram.program
    unfold Canvas.pointerMove
    split
    next => exact hp
    next session _ => exact h.pointerMove c.diagram geometry session pointer hp
  | pointerUp =>
    show P c.pointerUp.2.diagram.program
    unfold Canvas.pointerUp
    split
    next => exact hp
    next session _ => exact h.pointerUp c.diagram session hp

end Signalbox
