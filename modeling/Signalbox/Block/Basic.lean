import Signalbox.Block.Scalar

/-!
# Blocks

A program is a tree of blocks. A container owns a list of blocks, its children; a statement owns none. What
a block carries besides its id, its position and its children are its own fields: a `ContainerKind` or a
`StatementKind`. `Kind` is a block without id and position, and `BlockType` only the name of its kind.
-/

namespace Signalbox

/-- A place on the canvas. -/
structure Position where
  x : Float
  y : Float
  deriving BEq, Repr, Inhabited

/-- The place that lies a step away. -/
def Position.offset (p : Position) (dx dy : Float) : Position :=
  ⟨p.x + dx, p.y + dy⟩

/-- The types of blocks. -/
inductive BlockType where
  | once
  | forever
  | loop
  | branch
  | wait
  | sleep
  | log
  | alert
  | deviceSet
  | dummy
  deriving DecidableEq, Repr, Inhabited

namespace BlockType

/-- The name of a type in documents, outlines and on the command line. -/
def name : BlockType → String
  | .once => "once"
  | .forever => "forever"
  | .loop => "loop"
  | .branch => "if"
  | .wait => "wait"
  | .sleep => "sleep"
  | .log => "log"
  | .alert => "alert"
  | .deviceSet => "device-set"
  | .dummy => "dummy"

/-- The types in the order of their numbers in documents. -/
def all : List BlockType :=
  [.once, .forever, .loop, .branch, .wait, .sleep, .log, .alert, .deviceSet, .dummy]

/-- The second name of `device-set`. -/
def deviceSetAlias : String := "loco-set"

/-- The type with a name. -/
def ofName? (name : String) : Option BlockType :=
  if name = deviceSetAlias then some .deviceSet else all.find? (·.name = name)

/-- The message for a name that no type has. -/
def unknownMessage (name : String) : String :=
  s!"unknown block type '{name}': valid types are " ++ String.intercalate ", " (all.map (·.name))

/-- The types of containers. -/
def isContainer : BlockType → Bool
  | .once | .forever | .loop | .branch | .dummy => true
  | _ => false

/-- The types that stand in the top-level list of a program and are never moved into another block. -/
def isTopLevel : BlockType → Bool
  | .once | .forever => true
  | _ => false

theorem isTopLevel_iff {type : BlockType} : type.isTopLevel = true ↔ type = .once ∨ type = .forever := by
  cases type <;> simp [isTopLevel]

end BlockType

/-- The own fields of a container. `branch` runs its children when its condition holds, and `dummy` holds
a list of blocks that was taken out of its parent. -/
inductive ContainerKind where
  | once
  | forever
  | loop (count : UInt32)
  | branch (condition : String)
  | dummy
  deriving BEq, DecidableEq, Repr, Inhabited

/-- The own fields of a statement. -/
inductive StatementKind where
  | wait (condition : String)
  | sleep (value : Scalar)
  | log (value : Scalar)
  | alert (value : Scalar)
  | deviceSet (device prop : String) (value : Scalar)
  deriving BEq, Repr, Inhabited

/-- The type of a container. -/
def ContainerKind.type : ContainerKind → BlockType
  | .once => .once
  | .forever => .forever
  | .loop _ => .loop
  | .branch _ => .branch
  | .dummy => .dummy

/-- The type of a statement. -/
def StatementKind.type : StatementKind → BlockType
  | .wait _ => .wait
  | .sleep _ => .sleep
  | .log _ => .log
  | .alert _ => .alert
  | .deviceSet .. => .deviceSet

/-- A block of a program. -/
inductive Block where
  | container (id : String) (position : Option Position) (kind : ContainerKind) (children : List Block)
  | statement (id : String) (position : Option Position) (kind : StatementKind)
  deriving BEq, Repr

instance : Inhabited Block := ⟨.container "" none .once []⟩

/-- A block without its id and its position. -/
inductive Kind where
  | container (kind : ContainerKind) (children : List Block)
  | statement (kind : StatementKind)
  deriving BEq, Repr, Inhabited

/-- The own fields of a block. -/
inductive OwnFields where
  | container (kind : ContainerKind)
  | statement (kind : StatementKind)
  deriving BEq, Repr, Inhabited

namespace Kind

/-- The type of a kind. -/
def type : Kind → BlockType
  | .container kind _ => kind.type
  | .statement kind => kind.type

/-- The block of a kind with an id and a position. -/
def toBlock (id : String) (position : Option Position) : Kind → Block
  | .container kind children => .container id position kind children
  | .statement kind => .statement id position kind

end Kind

namespace Block

/-- The id of a block. -/
def id : Block → String
  | .container id .. => id
  | .statement id .. => id

/-- The position of a block, which only floating blocks have. -/
def position : Block → Option Position
  | .container _ position .. => position
  | .statement _ position _ => position

/-- The type of a block. -/
def type : Block → BlockType
  | .container _ _ kind _ => kind.type
  | .statement _ _ kind => kind.type

/-- The children of a container; a statement has none to speak of. -/
def children? : Block → Option (List Block)
  | .container _ _ _ children => some children
  | .statement .. => none

/-- The children of a block. -/
def children : Block → List Block
  | .container _ _ _ children => children
  | .statement .. => []

/-- The own fields of a block. -/
def own : Block → OwnFields
  | .container _ _ kind _ => .container kind
  | .statement _ _ kind => .statement kind

/-- The kind of a block. -/
def kind : Block → Kind
  | .container _ _ kind children => .container kind children
  | .statement _ _ kind => .statement kind

/-- Holds of the blocks that own a list of blocks. -/
def isContainer : Block → Bool
  | .container .. => true
  | .statement .. => false

/-- Holds of the floating holders. -/
def isDummy : Block → Bool
  | .container _ _ .dummy _ => true
  | _ => false

/-- The block at another position. -/
def withPosition (position : Position) : Block → Block
  | .container id _ kind children => .container id (some position) kind children
  | .statement id _ kind => .statement id (some position) kind

/-- The block with other children; a statement stays as it is. -/
def withChildren (children : List Block) : Block → Block
  | .container id position kind _ => .container id position kind children
  | .statement id position kind => .statement id position kind

/-- A block on one line: its type, what it carries, and its id. -/
def label (block : Block) : String :=
  let head := match block with
    | .container _ _ (.loop count) _ => s!"loop({count})"
    | .container _ _ (.branch condition) _ => s!"if({condition})"
    | .container _ _ kind _ => kind.type.name
    | .statement _ _ (.wait condition) => s!"wait({condition})"
    | .statement _ _ (.sleep value) => s!"sleep({value.display})"
    | .statement _ _ (.log value) => s!"log({value.display})"
    | .statement _ _ (.alert value) => s!"alert({value.display})"
    | .statement _ _ (.deviceSet device prop value) => s!"device-set({device}:{prop}={value.display})"
  s!"{head} #{block.id}"

end Block

namespace BlockType

/-- The count of a new loop. -/
def defaultLoopCount : UInt32 := 1

/-- The length of a new sleep in milliseconds. -/
def defaultSleep : Scalar := .number (.int 1000)

/-- The value of a new log, alert or device-set. -/
def defaultValue : Scalar := .text ""

/-- A new kind with every field at its default. -/
def defaultKind : BlockType → Kind
  | .once => .container .once []
  | .forever => .container .forever []
  | .loop => .container (.loop defaultLoopCount) []
  | .branch => .container (.branch "") []
  | .wait => .statement (.wait "")
  | .sleep => .statement (.sleep defaultSleep)
  | .log => .statement (.log defaultValue)
  | .alert => .statement (.alert defaultValue)
  | .deviceSet => .statement (.deviceSet "" "" defaultValue)
  | .dummy => .container .dummy []

end BlockType

end Signalbox
