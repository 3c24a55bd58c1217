import Signalbox.Program.Basic

/-!
# The rules of a program tree

Ids are not empty and no two blocks share one. At the top level stand only once and forever blocks and
dummies, and these stand nowhere else. `Program.violations` lists every broken rule in the order of the
document.
-/

namespace Signalbox

/-- A broken rule. -/
inductive Violation where
  | duplicateId (id : String)
  | emptyId
  | statementAtTopLevel (id : String) (type : BlockType) (index : Nat)
  | nestedDummy (id parent : String)
  | nestedTopLevel (id : String) (type : BlockType) (parent : String)
  deriving DecidableEq, Repr

/-- The wording of a broken rule. -/
def Violation.message : Violation → String
  | .duplicateId id => s!"duplicate block id '{id}'"
  | .emptyId => "block with empty id"
  | .statementAtTopLevel id type index =>
    s!"top-level block [{index}] '{id}' is a {type.name} statement; " ++
      "only once, forever or dummy may be top-level"
  | .nestedDummy id parent => s!"dummy '{id}' is nested inside '{parent}'"
  | .nestedTopLevel id type parent => s!"{type.name} block '{id}' is nested inside '{parent}'"

namespace Block

/-- The rules that an id breaks after those seen before it, and the ids seen with it. -/
def checkId (seen : List String) (id : String) : List Violation × List String :=
  if id.isEmpty then ([.emptyId], seen)
  else if id ∈ seen then ([.duplicateId id], seen)
  else ([], id :: seen)

/-- The rules that a block breaks by standing inside another one. -/
def checkNested (parent : String) (child : Block) : List Violation :=
  if child.type = .dummy then [.nestedDummy child.id parent]
  else if child.type.isTopLevel then [.nestedTopLevel child.id child.type parent]
  else []

mutual

/-- The rules broken in a block and inside it, and the ids seen with it. -/
def check (seen : List String) : Block → List Violation × List String
  | .statement id .. => checkId seen id
  | .container id _ _ children =>
    let (here, seen) := checkId seen id
    let (below, seen) := checkChildren id seen children
    (here ++ below, seen)

/-- The rules broken in the children of a block and inside them, and the ids seen with them. -/
def checkChildren (parent : String) (seen : List String) : List Block → List Violation × List String
  | [] => ([], seen)
  | child :: rest =>
    let (here, seen) := check seen child
    let (later, seen) := checkChildren parent seen rest
    (checkNested parent child ++ here ++ later, seen)

end

/-- The rules that a block breaks by standing at the top level. -/
def checkTopLevel (index : Nat) (block : Block) : List Violation :=
  if block.type.isTopLevel ∨ block.type = .dummy then []
  else [.statementAtTopLevel block.id block.type index]

/-- The rules broken in the top-level blocks from an index on. -/
def checkTopLevelFrom (index : Nat) (seen : List String) : List Block → List Violation
  | [] => []
  | block :: rest =>
    let (here, seen) := check seen block
    checkTopLevel index block ++ here ++ checkTopLevelFrom (index + 1) seen rest

end Block

/-- The broken rules of a program, in the order of the document. -/
def Program.violations (p : Program) : List Violation :=
  Block.checkTopLevelFrom 0 [] p.blocks

end Signalbox
