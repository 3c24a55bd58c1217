import Signalbox.Program.Basic

/-!
# Outlines

An outline shows the blocks of a program in the order of the document, each indented by its depth and ended by a newline.
Texts that were entered are shown as they are, newlines among them.
-/

namespace Signalbox

/-- A position as an outline shows it. -/
def Position.label (p : Position) : String :=
  s!" @({Layout.plain.write p.x}, {Layout.plain.write p.y})"

namespace Block

/-- The line of a block, without its end. -/
def outlineLine (depth : Nat) (block : Block) : String :=
  String.ofList (List.replicate (2 * depth) ' ') ++ block.label ++
    match block.position with
    | some position => position.label
    | none => ""

mutual

/-- The lines of a block and of everything inside it. -/
def outline (depth : Nat) : Block → String
  | .container id position kind children =>
    (Block.container id position kind children).outlineLine depth ++ "\n" ++
      outlineIn (depth + 1) children
  | .statement id position kind => (Block.statement id position kind).outlineLine depth ++ "\n"

/-- The lines of a list of blocks and of everything inside them. -/
def outlineIn (depth : Nat) : List Block → String
  | [] => ""
  | block :: rest => block.outline depth ++ outlineIn depth rest

end

end Block

/-- The outline of a program. -/
def Program.outline (p : Program) : String :=
  Block.outlineIn 0 p.blocks

end Signalbox
