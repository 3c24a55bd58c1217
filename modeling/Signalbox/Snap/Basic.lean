import Signalbox.Json.Basic

/-!
# Snap points

A block offers anchors to a list of blocks that is dragged over it. They are declared relative to the
block's box on the canvas; `SnapPoint.resolve` places them, and `Resolved.choose?` takes the one nearest
to the pointer's height.
-/

namespace Signalbox

/-- Where a dropped list goes: in front of the children of the target, or right behind the target. -/
inductive SnapType where
  | inner
  | append
  deriving DecidableEq, Repr, Inhabited

namespace SnapType

/-- The name of a snap type. -/
def name : SnapType → String
  | .inner => "inner"
  | .append => "append"

/-- The snap type with a name in any case. No character outside ASCII is a capital of these letters. -/
def ofName? (name : String) : Option SnapType :=
  let lower := String.ofList (name.toList.map Char.toLower)
  if lower = "inner" then some .inner
  else if lower = "append" then some .append
  else none

/-- The message for a name that no snap type has. -/
def unknownMessage (name : String) : String :=
  s!"unknown snap type '{name}': use inner or append"

end SnapType

/-- The box of a block on the canvas. -/
structure BoundingBox where
  x : Float
  y : Float
  width : Float
  height : Float
  deriving BEq, Repr, Inhabited

namespace BoundingBox

/-- The right edge. -/
def right (b : BoundingBox) : Float := b.x + b.width

/-- The bottom edge. -/
def bottom (b : BoundingBox) : Float := b.y + b.height

/-- Holds of the points inside a box or on its edge. -/
def contains (b : BoundingBox) (x y : Float) : Bool :=
  b.x ≤ x && x ≤ b.right && b.y ≤ y && y ≤ b.bottom

end BoundingBox

/-- An anchor relative to a block's box: `x` or `left` and `y` or `top` count from its top left corner,
`right` and `bottom` from the far edges. -/
structure SnapPoint where
  type : SnapType
  x : Option Float := none
  left : Option Float := none
  y : Option Float := none
  top : Option Float := none
  right : Option Float := none
  bottom : Option Float := none
  deriving BEq, Repr, Inhabited

/-- An anchor on the canvas. -/
structure Resolved where
  type : SnapType
  x : Option Float
  y : Option Float
  left : Option Float
  top : Option Float
  right : Option Float
  bottom : Option Float
  deriving BEq, Repr, Inhabited

/-- The anchor on the canvas. An anchor without a place on an axis takes that of its far edge. -/
def SnapPoint.resolve (target : BoundingBox) (p : SnapPoint) : Resolved :=
  let left := (p.x.or p.left).map (· + target.x)
  let top := (p.y.or p.top).map (· + target.y)
  let right := p.right.map (target.right - ·)
  let bottom := p.bottom.map (target.bottom - ·)
  { type := p.type
    x := left.or right
    y := top.or bottom
    left, top, right, bottom }

namespace Resolved

/-- Compares an anchor with the best one so far, by the distance of its height from the pointer. An
anchor without a height does not count, and of two that are equally near the earlier one stays. -/
def nearer (pointerY : Float) (best : Option (Nat × Float)) : Resolved × Nat → Option (Nat × Float)
  | (point, index) =>
    match point.y with
    | none => best
    | some y =>
      let distance := (y - pointerY).abs
      match best with
      | none => some (index, distance)
      | some (chosen, least) => if distance < least then some (index, distance) else some (chosen, least)

/-- The index of the anchor nearest to the pointer's height. An anchor alone is chosen wherever the pointer
is. -/
def chooseIndex? (points : List Resolved) (pointerY : Float) : Option Nat :=
  match points with
  | [] => none
  | [_] => some 0
  | points => (points.zipIdx.foldl (nearer pointerY) none).map (·.1)

/-- The anchor nearest to the pointer's height. -/
def choose? (points : List Resolved) (pointerY : Float) : Option Resolved :=
  (chooseIndex? points pointerY).bind (points[·]?)

end Resolved

end Signalbox
