import Signalbox.Condition.Grammar
import Signalbox.Program.Rules

/-!
# The problems of a program

Besides the rules of the tree, the conditions of a program should be readable. `Program.problems` lists all
that is wrong: first the broken rules, then the conditions in the order of the document.
-/

namespace Signalbox

/-- A condition of a block that cannot be read. -/
structure ConditionProblem where
  type : BlockType
  id : String
  reason : ConditionError
  deriving DecidableEq, Repr

/-- The wording of a problem. -/
def ConditionProblem.message (p : ConditionProblem) : String :=
  s!"{p.type.name} '{p.id}': {p.reason.message}"

namespace Block

/-- The condition of a block itself. -/
def condition? : Block → Option String
  | .container _ _ (.branch condition) _ => some condition
  | .statement _ _ (.wait condition) => some condition
  | _ => none

/-- The problem with the condition of a block itself. -/
def ownProblem (block : Block) : List ConditionProblem :=
  match block.condition? with
  | none => []
  | some condition =>
    match Condition.read condition with
    | .ok _ => []
    | .error reason => [⟨block.type, block.id, reason⟩]

mutual

/-- The problems with conditions of a block and everything inside it. -/
def conditionProblems : Block → List ConditionProblem
  | .container id position kind children =>
    (Block.container id position kind children).ownProblem ++ conditionProblemsIn children
  | .statement id position kind => (Block.statement id position kind).ownProblem

/-- The problems with conditions of a list of blocks and everything inside them. -/
def conditionProblemsIn : List Block → List ConditionProblem
  | [] => []
  | block :: rest => block.conditionProblems ++ conditionProblemsIn rest

end

end Block

/-- Everything that is wrong with a program, in words. -/
def Program.problems (p : Program) : List String :=
  p.violations.map (·.message) ++ (Block.conditionProblemsIn p.blocks).map (·.message)

end Signalbox
