import Signalbox.Block.Basic
import Signalbox.Snap.Basic

/-!
# The anchors of the block types

A container offers the place in front of its children, and everything that can stand inside another block
offers the place behind it. Dummies offer none.
-/

namespace Signalbox

namespace SnapPoint

/-- The anchor where lists are nested, at an inset from the top left corner. -/
def nesting : SnapPoint :=
  { type := .inner, top := some 88, left := some 29 }

/-- The anchor at the bottom edge, behind the block. -/
def following : SnapPoint :=
  { type := .append, bottom := some 0 }

/-- The anchor as documents hold it: what is not declared is left out. -/
def toJson (p : SnapPoint) : Json :=
  let optional (name : String) (value : Option Float) : List (String × Json) :=
    match value with
    | some x => [(name, .ofFloat x)]
    | none => []
  .map (("type", .str p.type.name) :: optional "x" p.x ++ optional "left" p.left ++
    optional "y" p.y ++ optional "top" p.top ++ optional "right" p.right ++ optional "bottom" p.bottom)

end SnapPoint

/-- The anchors that a block of a type offers. -/
def BlockType.snapPoints : BlockType → List SnapPoint
  | .once | .forever => [.nesting]
  | .loop | .branch => [.nesting, .following]
  | .wait | .sleep | .log | .alert | .deviceSet => [.following]
  | .dummy => []

end Signalbox
