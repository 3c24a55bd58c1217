import Signalbox.Editor.Diagram

/-!
# Moving blocks

A block and the siblings that follow it are moved onto another block in one step: they are split off and
committed, and when they find no place the program stays as it is.
-/

namespace Signalbox

/-- A reason why a block is not moved. -/
inductive MoveError where
  | edit (e : EditError)
  | rejected (block onto : String) (reason : RejectReason)
  | noAnchor (block onto : String) (snap : SnapType)
  | nothing (block : String)
  deriving DecidableEq, Repr

/-- The wording of an error. -/
def MoveError.message : MoveError → String
  | .edit e => e.message
  | .rejected block onto .selfSnap => s!"cannot move {block} onto {onto}: a block cannot snap to itself"
  | .rejected block onto .insideDragged =>
    s!"cannot move {block} onto {onto}: the target is part of the moved blocks"
  | .noAnchor block onto snap => s!"{onto} has no {snap.name} snap point for {block}"
  | .nothing block => s!"nothing to move for {block}"

/-- Where moved blocks stand. -/
structure Placement where
  parent : String
  index : Nat
  moved : Nat
  deriving DecidableEq, Repr

namespace Placement

/-- The placement as the outcome of a commit. -/
def outcome (p : Placement) : SnapOutcome :=
  .committed p.parent p.index p.moved

end Placement

/-- Moves a block and the siblings that follow it onto another block. -/
def Program.move (p : Program) (block onto : String) (snap : SnapType) :
    Except MoveError (Placement × Program) :=
  if ¬ p.contains onto then .error (.edit (.notFound onto))
  else
    let position := ((p.find? block).bind (·.position)).getD ⟨0, 0⟩
    match (Diagram.ofProgram p defaultSpawnPosition).split block position with
    | (.error e, _) => .error (.edit e)
    | (.ok _, d) =>
      match d.commit onto snap block with
      | (.committed parent index moved, d) => .ok (⟨parent, index, moved⟩, d.program)
      | (.rejected reason, _) => .error (.rejected block onto reason)
      | (.floating _, _) => .error (.noAnchor block onto snap)
      | (.nothingToCommit, _) => .error (.nothing block)

/-- A move succeeds exactly if the target is there, the blocks are split off and the diagram commits them. The program
is then that of the diagram. -/
theorem Program.move_eq_ok_iff {p q : Program} {block onto : String} {snap : SnapType} {placement : Placement} :
    p.move block onto snap = .ok (placement, q) ↔
      p.contains onto = true ∧ ∃ dummy d d',
        (Diagram.ofProgram p defaultSpawnPosition).split block
            (((p.find? block).bind (·.position)).getD ⟨0, 0⟩) = (.ok dummy, d) ∧
          d.commit onto snap block = (placement.outcome, d') ∧ q = d'.program := by
  unfold move
  cases honto : p.contains onto with
  | false => exact ⟨nofun, fun h => nomatch h.1⟩
  | true =>
    rw [if_neg (fun h => h rfl)]
    dsimp only
    cases (Diagram.ofProgram p defaultSpawnPosition).split block
        (((p.find? block).bind (·.position)).getD ⟨0, 0⟩) with
    | mk answer d =>
      cases answer with
      | error e => exact ⟨nofun, fun ⟨_, _, _, _, h, _⟩ => nomatch h⟩
      | ok dummy =>
        dsimp only
        -- of the four outcomes of a commit, one is a placement
        cases hcommit : d.commit onto snap block with
        | mk outcome d' =>
          cases outcome with
          | committed parent index moved =>
            constructor
            · rintro ⟨⟩
              exact ⟨rfl, dummy, d, d', rfl, hcommit, rfl⟩
            · rintro ⟨-, _, _, _, ⟨⟩, hcommitted, rfl⟩
              obtain ⟨houtcome, rfl⟩ := Prod.mk.inj (hcommit.symm.trans hcommitted)
              cases placement
              obtain ⟨rfl, rfl, rfl⟩ := SnapOutcome.committed.inj houtcome
              rfl
          | rejected | floating | nothingToCommit =>
            refine ⟨nofun, ?_⟩
            rintro ⟨-, _, _, _, ⟨⟩, hcommitted, -⟩
            cases hcommit.symm.trans hcommitted

end Signalbox
