import Signalbox.Proofs.Editor.Edit
import Signalbox.Proofs.Editor.Trade

/-!
# Edits that fail

An edit that fails leaves the program as it was, on every tree: ids may be empty or shared, and any block may stand
anywhere. Most edits fail before they change anything. A commit may fail late: it takes the first top-level block
with the id of the dummy out of the program and empties it, and only then looks for the parent again. When ids are
shared, the block that was taken out need not be the dummy, and the parent may have gone with it. The block is then
put back to where it stood, with the children that it had.

Main results:

* `Diagram.commit_snd_of_not_committed`: a commit that does not commit changes nothing.
* `Canvas.program_apply_of_fails`: an edit that fails leaves the program as it was.
-/

namespace Signalbox

/-- An edit that fails on a canvas: it answers with an error, it finds no block to move or to begin a gesture on, or
its outcome is another one than that a list was committed. Additions and new dummies do not fail. -/
def Edit.Fails (c : Canvas) : Edit → Prop
  | .addBlock .. | .createDummy _ => False
  | .split id position => ∃ e, (c.diagram.split id position).1 = .error e
  | .commit hover snap dragging =>
    ∀ parent index moved, (c.diagram.commit hover snap dragging).1 ≠ .committed parent index moved
  | .setPosition id position => (c.diagram.setPosition id position).1 = false
  | .updateBlock id kind => ∃ e, c.diagram.updateBlock id kind = .error e
  | .pointerDown geometry id pointer => (c.pointerDown geometry id pointer).1 = false
  | .pointerMove geometry pointer => ∃ e, (c.pointerMove geometry pointer).1 = .error e
  | .pointerUp => ∀ parent index moved, c.pointerUp.1 ≠ some (.committed parent index moved)

namespace Diagram

variable {d : Diagram}

/-- A block that cannot be split off stays where it is. Only the number of a dummy is used up. -/
theorem program_split_of_error {id : String} {position : Position} {e : EditError}
    (h : (d.split id position).1 = .error e) : (d.split id position).2.program = d.program := by
  unfold split at h ⊢
  cases hfor : d.dummyFor? id with
  | some dummy => rfl
  | none =>
    rw [hfor] at h
    cases hdetach : d.program.detach id with
    | error => simp only [createDummy, hdetach]
    | ok detached =>
      simp only [createDummy, hdetach] at h
      cases h

/-- Where there is no block to be moved about, the diagram stays as it is. -/
theorem setPosition_snd_of_false {id : String} {position : Position} (h : (d.setPosition id position).1 = false) :
    (d.setPosition id position).2 = d := by
  unfold setPosition at h ⊢
  cases hremove : Block.removeFrom? id d.program.blocks with
  | none => rfl
  | some found =>
    rw [hremove] at h
    cases h

/-- A commit that does not commit changes nothing, and this also when the dummy was taken out before. -/
theorem commit_snd_of_not_committed {hover dragging : String} {snap : SnapType}
    (h : ∀ parent index moved, (d.commit hover snap dragging).1 ≠ .committed parent index moved) :
    (d.commit hover snap dragging).2 = d := by
  rcases d.commit_eq hover snap dragging with hsame | ⟨_, parent, index, holder, _, _, _, _, _, _, hcommit⟩
  · exact hsame
  · exact absurd (congrArg Prod.fst hcommit) (h parent index holder.children.length)

/-- A move of the pointer fails only when the block cannot be split off. -/
theorem program_pointerMove_of_error {geometry : Geometry} {session : DragSession} {pointer : Position} {e : EditError}
    (h : (d.pointerMove geometry session pointer).1 = .error e) :
    (d.pointerMove geometry session pointer).2.2.program = d.program := by
  unfold pointerMove at h ⊢
  by_cases hcontains : d.program.contains session.dragged = true
  · rw [if_neg (not_not_intro hcontains)] at h ⊢
    dsimp only at h ⊢
    -- only the split of a nested block can fail, and it fails before it changes the program
    by_cases hsplit : session.dummy.isNone = true ∧ ¬ d.program.isTopLevel session.dragged = true
    · rw [if_pos hsplit] at h ⊢
      cases hresult : d.split session.dragged session.initial with
      | mk outcome split =>
        rw [hresult] at h
        cases outcome with
        | ok dummy => cases h
        | error e =>
          have hprogram := program_split_of_error (congrArg Prod.fst hresult)
          rw [hresult] at hprogram
          exact hprogram
    · rw [if_neg hsplit] at h
      cases h
  · rw [if_pos hcontains]

/-- The end of a gesture commits what was shown, and it does nothing when nothing was shown. -/
theorem pointerUp_snd_of_not_committed {session : DragSession}
    (h : ∀ parent index moved, (d.pointerUp session).1 ≠ some (.committed parent index moved)) :
    (d.pointerUp session).2 = d := by
  unfold pointerUp at h ⊢
  cases hhover : session.hover with
  | none => rfl
  | some hover =>
    rw [hhover] at h
    exact commit_snd_of_not_committed fun parent index moved heq => h parent index moved (congrArg some heq)

end Diagram

/-- An edit that fails leaves the program as it was, whatever tree it is. -/
theorem Canvas.program_apply_of_fails {c : Canvas} {edit : Edit} (h : edit.Fails c) :
    (c.apply edit).diagram.program = c.diagram.program := by
  -- each edit fails before it changes the program, except for the commit, which puts back what it took
  cases edit with
  | addBlock | createDummy => exact h.elim
  | split id position =>
    obtain ⟨e, he⟩ := h
    exact Diagram.program_split_of_error he
  | commit hover snap dragging => exact congrArg _ (Diagram.commit_snd_of_not_committed h)
  | setPosition id position => exact congrArg _ (Diagram.setPosition_snd_of_false h)
  | updateBlock id kind =>
    obtain ⟨e, he⟩ := h
    simp only [apply, he]
  | pointerDown geometry id pointer =>
    show (c.pointerDown geometry id pointer).2.diagram.program = _
    unfold Canvas.pointerDown
    split <;> rfl
  | pointerMove geometry pointer =>
    obtain ⟨e, he⟩ := h
    show (c.pointerMove geometry pointer).2.diagram.program = _
    unfold Canvas.pointerMove at he ⊢
    cases hsession : c.session with
    | none => rfl
    | some session =>
      rw [hsession] at he
      exact Diagram.program_pointerMove_of_error he
  | pointerUp =>
    have hup : ∀ parent index moved, c.pointerUp.1 ≠ some (.committed parent index moved) := h
    show c.pointerUp.2.diagram.program = _
    unfold Canvas.pointerUp at hup ⊢
    cases hsession : c.session with
    | none => rfl
    | some session =>
      rw [hsession] at hup
      exact congrArg _ (Diagram.pointerUp_snd_of_not_committed hup)

/-- A once container and a dummy with the same id. -/
def Canvas.sharedId : Canvas :=
  .ofDiagram (.ofProgram ⟨[.container "h" none .once [.container "r" none (.loop 2) []],
    .container "h" none .dummy [.statement "a" none (.log (.text "a"))]]⟩ defaultSpawnPosition)

/-- The list of the dummy is to go into the loop. The once container is taken out in place of the dummy, the loop is
gone with it, and both are put back. -/
theorem Canvas.program_apply_of_fails_sharedId :
    sharedId.diagram.target? "r" .inner = some ("r", 0) ∧
      (sharedId.diagram.program.takeOut? "h").map (fun t => (t.holder.type, t.list.map Block.id)) =
        some (.once, ["r"]) ∧
      (sharedId.diagram.commit "r" .inner "a").1 = .floating "h" ∧
      (sharedId.apply (.commit "r" .inner "a")).diagram.program = sharedId.diagram.program := by
  have houtcome : (sharedId.diagram.commit "r" .inner "a").1 = .floating "h" := by decide
  refine ⟨by decide, by decide, houtcome, program_apply_of_fails fun parent index moved h => ?_⟩
  rw [houtcome] at h
  cases h

end Signalbox
