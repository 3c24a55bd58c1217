import Signalbox.Proofs.Editor.Place

/-!
# Gestures

What a gesture shows at a move is what it does at its end. A target is shown only where the list can be dropped,
by any layout and by one that speaks of blocks which do not exist as well; and nothing happens between the last
move of a gesture and its end that takes the target away.

Main results:

* `Diagram.hover?_droppable`: a list can be dropped on the target that is shown.
* `Canvas.Follows.apply` / `Canvas.Follows.run`: what every event of a gesture, and a list of them, keeps.
* `Canvas.drops_of_shown`: moves do not fail, and the end of a gesture does what was shown last.
-/

namespace Signalbox

/-- The events of gestures. -/
def Edit.IsPointer : Edit → Prop
  | .pointerDown .. | .pointerMove .. | .pointerUp => True
  | _ => False

/-- What the last move of the gesture under way has shown after an event, if it was `shown` before. -/
def Edit.shows (c : Canvas) (shown : Option HoverTarget) : Edit → Option HoverTarget
  | .pointerDown geometry id pointer => if (c.pointerDown geometry id pointer).1 then none else shown
  | .pointerMove geometry pointer =>
    match (c.pointerMove geometry pointer).1 with
    | .ok hover => hover
    | .error _ => none
  | .pointerUp => none
  | _ => shown

/-- What the last move of the gesture under way has shown after a list of events. -/
def Canvas.shownAfter (c : Canvas) (shown : Option HoverTarget) : List Edit → Option HoverTarget
  | [] => shown
  | edit :: rest => (c.apply edit).shownAfter (edit.shows c shown) rest

/-- Moves keep a program valid. -/
theorem Program.Valid.keptByMoves : KeptByMoves Program.Valid :=
  ⟨fun d id position h => h.split d id position, fun d hover snap dragging h => h.commit d hover snap dragging,
    fun d id position h => h.setPosition d id position⟩

/-- The anchor that is chosen is one of those offered. -/
theorem Resolved.mem_of_choose?_eq_some {points : List Resolved} {pointerY : Float} {point : Resolved}
    (h : choose? points pointerY = some point) : point ∈ points := by
  obtain ⟨index, -, hpoint⟩ := Option.bind_eq_some_iff.mp h
  exact List.mem_of_getElem? hpoint

namespace Diagram

variable {d : Diagram} {id : String} {position : Position}

/-! ## Moving blocks -/

/-- A dummy is found when one at the top level has the block for its first child. -/
theorem dummyFor?_ne_none_iff (d : Diagram) (id : String) :
    d.dummyFor? id ≠ none ↔
      ∃ block ∈ d.program.blocks, (block.isDummy && block.children.head?.any (·.id = id)) = true := by
  rw [← Option.isSome_iff_ne_none, dummyFor?, List.find?_isSome]

theorem isDummy_withPosition (block : Block) (position : Position) :
    (block.withPosition position).isDummy = block.isDummy := by
  rcases block with ⟨_, _, kind, _⟩ | ⟨_, _, kind⟩ <;> cases kind <;> rfl

/-- A dummy keeps its list when a block is moved. -/
theorem dummyFor?_setPosition {x : String} (h : d.dummyFor? x ≠ none) (id : String) (position : Position) :
    (d.setPosition id position).2.dummyFor? x ≠ none := by
  obtain ⟨dummy, hmem, hdummy⟩ := (dummyFor?_ne_none_iff d x).mp h
  unfold setPosition
  cases hremove : Block.removeFrom? id d.program.blocks with
  | none => exact h
  | some found =>
    obtain ⟨block, rest⟩ := found
    obtain ⟨front, back, hblocks, rfl, -⟩ := Block.removeFrom?_eq_some hremove
    rw [dummyFor?_ne_none_iff]
    show ∃ other ∈ (front ++ back) ++ [block.withPosition position], _
    rw [hblocks] at hmem
    -- the dummy is the block that is moved, or another one
    by_cases hsame : dummy = block
    · refine ⟨block.withPosition position, by simp, ?_⟩
      rw [isDummy_withPosition, Block.children_withPosition, ← hsame]
      exact hdummy
    · refine ⟨dummy, ?_, hdummy⟩
      simp only [List.mem_append, List.mem_cons] at hmem ⊢
      tauto

/-- Every block is still there when one is moved about. -/
theorem contains_setPosition {x : String} (h : d.program.contains x = true) (id : String)
    (position : Position) : (d.setPosition id position).2.program.contains x = true := by
  rw [Program.contains_iff] at h ⊢
  rcases d.setPosition_cases id position with hsame | ⟨n, -, htrades⟩
  · rwa [hsame]
  · have hperm : (d.setPosition id position).2.program.ids.Perm ([] ++ d.program.ids) :=
      htrades.ids_perm (List.Perm.refl _)
    exact hperm.mem_iff.mpr h

/-- Every block is still there after a split. -/
theorem contains_split {x : String} (h : d.program.contains x = true) (id : String) (position : Position) :
    (d.split id position).2.program.contains x = true := by
  rw [Program.contains_iff] at h ⊢
  rcases d.split_cases id position with hsame | ⟨parent, isEmpty, htrades, -⟩
  · rwa [hsame]
  · have hperm : (d.split id position).2.program.ids.Perm ([(d.newDummy position).id] ++ d.program.ids) :=
      htrades.ids_perm (List.Perm.refl _)
    exact hperm.mem_iff.mpr (List.mem_append_right _ h)

/-- A block inside another one can be split off. -/
theorem exists_detach_eq_ok {p : Program} (hmem : p.contains id = true) (htop : p.isTopLevel id = false) :
    ∃ detached p', p.detach id = .ok (detached, p') := by
  rw [Program.contains_iff] at hmem
  obtain ⟨parent, hparent⟩ := Block.exists_parentIn?_eq_some hmem htop
  rw [Program.detach, if_neg (Bool.eq_false_iff.mp htop)]
  cases hedit : Block.editParentIn? id (Block.cutChildren id) p.blocks with
  | none =>
    rw [Block.editParentIn?_eq_none hedit] at hparent
    cases hparent
  | some found => exact ⟨found.1, ⟨found.2⟩, rfl⟩

/-- A dummy holds the list that was split off. -/
theorem dummyFor?_split {dummy : String} (h : (d.split id position).1 = .ok dummy) :
    (d.split id position).2.dummyFor? id ≠ none := by
  unfold split at h ⊢
  cases hfor : d.dummyFor? id with
  | some holder =>
    rw [hfor]
    exact Option.some_ne_none holder
  | none =>
    rw [hfor] at h
    cases hdetach : d.program.detach id with
    | error e =>
      simp only [createDummy, hdetach] at h
      cases h
    | ok found =>
      obtain ⟨parent, nested, hhas, hdetached, -⟩ := Program.detach_eq_ok hdetach
      obtain ⟨child, rest, hfrom, hid⟩ := Block.exists_childrenFrom_eq_cons hhas
      simp only [createDummy, hdetach]
      -- the new dummy starts with the block
      rw [dummyFor?_ne_none_iff]
      refine ⟨_, List.mem_append_right _ (List.mem_singleton_self _), ?_⟩
      rw [hdetached, hfrom]
      simpa [Block.withChildren, Block.isDummy, Block.children] using hid

/-- A split of a block inside another one succeeds, and a dummy holds the list. -/
theorem split_eq_ok (hmem : d.program.contains id = true) (htop : d.program.isTopLevel id = false)
    (position : Position) :
    ∃ dummy, (d.split id position).1 = .ok dummy ∧ (d.split id position).2.dummyFor? id ≠ none := by
  suffices hsplit : ∃ dummy, (d.split id position).1 = .ok dummy from
    hsplit.imp fun _ h => ⟨h, dummyFor?_split h⟩
  unfold split
  cases hfor : d.dummyFor? id with
  | some dummy => exact ⟨dummy.id, rfl⟩
  | none =>
    obtain ⟨detached, p', hdetach⟩ := exists_detach_eq_ok hmem htop
    simp only [createDummy, hdetach]
    exact ⟨_, rfl⟩

/-! ## Targets -/

/-- A list can be dropped on the target that is shown. -/
theorem hover?_droppable {geometry : Geometry} {dragged : String} {pointer : Position} {hover : HoverTarget}
    (h : d.hover? geometry dragged pointer = some hover) (hheld : d.dummyFor? dragged ≠ none) :
    ∃ dummy block, d.Droppable dragged hover.id hover.snap dummy block := by
  obtain ⟨dummy, hdummy⟩ := Option.ne_none_iff_exists'.mp hheld
  unfold hover? at h
  simp only [hdummy, Option.bind_eq_bind] at h
  obtain ⟨id, hid, h⟩ := Option.bind_eq_some_iff.mp h
  obtain ⟨block, hblock, h⟩ := Option.bind_eq_some_iff.mp h
  obtain ⟨box, -, h⟩ := Option.bind_eq_some_iff.mp h
  obtain ⟨point, hpoint, h⟩ := Option.bind_eq_some_iff.mp h
  obtain rfl := Option.some.inj h
  -- the filter keeps out what moves along
  have hstays := List.find?_some hid
  simp only [Bool.not_eq_true, Bool.or_eq_false_iff, decide_eq_true_eq, decide_eq_false_iff_not] at hstays
  obtain ⟨hself, hne, hinside⟩ := hstays
  refine ⟨dummy, block, hdummy, hself, hne, ?_, hblock, ?_⟩
  · simpa using hinside
  · obtain ⟨anchor, hanchor, rfl⟩ := List.mem_map.mp (Resolved.mem_of_choose?_eq_some hpoint)
    exact List.mem_map.mpr ⟨anchor, hanchor, rfl⟩

end Diagram

/-! ## Gestures under way -/

/-- A gesture fits its diagram: the dragged block is there, what was split off is still held by a dummy, and the
target is the one that was shown and takes the list. -/
structure DragSession.Follows (session : DragSession) (d : Diagram) (shown : Option HoverTarget) : Prop where
  contained : d.program.contains session.dragged = true
  held : session.dummy ≠ none → d.dummyFor? session.dragged ≠ none
  shown_eq : session.hover = shown
  droppable : ∀ hover, session.hover = some hover →
    ∃ dummy block, d.Droppable session.dragged hover.id hover.snap dummy block

namespace DragSession.Follows

variable {session : DragSession} {d : Diagram} {shown : Option HoverTarget}

/-- A move that looks for a target where the dragged list is held. -/
theorem of_hover? (session : DragSession) (hcontained : d.program.contains session.dragged = true)
    (geometry : Geometry) (pointer : Position) (hheld : d.dummyFor? session.dragged ≠ none) :
    ({ session with hover := d.hover? geometry session.dragged pointer } : DragSession).Follows d
      (d.hover? geometry session.dragged pointer) :=
  ⟨hcontained, fun _ => hheld, rfl, fun _ hhover => Diagram.hover?_droppable hhover hheld⟩

/-- A move does not fail, and the gesture fits the diagram after it. -/
theorem pointerMove (h : session.Follows d shown) (geometry : Geometry) (pointer : Position) :
    ∃ hover session' d', d.pointerMove geometry session pointer = (.ok hover, session', d') ∧
      session'.Follows d' hover := by
  unfold Diagram.pointerMove
  rw [if_neg (by rw [h.contained]; exact not_not_intro rfl)]
  cases htop : d.program.isTopLevel session.dragged with
  | true =>
    -- a block at the top level only moves, and no target is shown
    simp only [not_true_eq_false, and_false, if_false]
    refine ⟨none, _, _, rfl, ?_, ?_, rfl, fun _ hhover => nomatch hhover⟩
    · exact Diagram.contains_setPosition h.contained _ _
    · exact fun hdummy => Diagram.dummyFor?_setPosition (h.held hdummy) _ _
  | false =>
    cases hdummy : session.dummy with
    | none =>
      -- the first move splits the block off
      obtain ⟨dummy, hsplit, hheld⟩ := Diagram.split_eq_ok h.contained htop session.initial
      have hcontained := Diagram.contains_split h.contained session.dragged session.initial
      cases hresult : d.split session.dragged session.initial with
      | mk answer split =>
        rw [hresult] at hsplit hheld hcontained
        obtain rfl : answer = .ok dummy := hsplit
        have hheld' := Diagram.dummyFor?_setPosition hheld dummy session.initial
        have hcontained' := Diagram.contains_setPosition hcontained dummy session.initial
        simp only [Option.isNone_none, true_and, if_true, Bool.false_eq_true, not_false_eq_true]
        exact ⟨_, _, _, rfl, of_hover? { session with dummy := some dummy } hcontained' geometry pointer hheld'⟩
    | some dummy =>
      -- a later one only moves the dummy
      have hheld := h.held (by rw [hdummy]; exact Option.some_ne_none dummy)
      have hheld' (position : Position) := Diagram.dummyFor?_setPosition hheld dummy position
      have hcontained' (position : Position) := Diagram.contains_setPosition h.contained dummy position
      simp only [Option.isNone_some, Bool.false_eq_true, false_and, if_false, not_false_eq_true, if_true,
        Option.getD_some]
      exact ⟨_, _, _, rfl, of_hover? session (hcontained' _) geometry pointer (hheld' _)⟩

end DragSession.Follows

namespace Canvas

/-- What the events of gestures keep: the program is valid, and a gesture under way fits the diagram. -/
structure Follows (c : Canvas) (shown : Option HoverTarget) : Prop where
  valid : c.diagram.program.Valid
  idle : c.session = none → shown = none
  session : ∀ session, c.session = some session → session.Follows c.diagram shown

namespace Follows

variable {c : Canvas} {shown : Option HoverTarget}

/-- A move does not fail, and what it shows is what is kept for the end of the gesture. -/
theorem exists_pointerMove_eq_ok (h : c.Follows shown) (geometry : Geometry) (pointer : Position) :
    ∃ hover, (c.pointerMove geometry pointer).1 = .ok hover ∧
      (c.pointerMove geometry pointer).2.Follows hover := by
  have hvalid : (c.pointerMove geometry pointer).2.diagram.program.Valid :=
    Program.Valid.keptByMoves.apply (show (Edit.pointerMove geometry pointer).Moves from trivial) h.valid
  unfold Canvas.pointerMove at hvalid ⊢
  cases hsession : c.session with
  | none =>
    obtain rfl := h.idle hsession
    exact ⟨none, rfl, h⟩
  | some session =>
    obtain ⟨hover, session', d', hmove, hfollows⟩ := (h.session session hsession).pointerMove geometry pointer
    simp only [hsession, hmove] at hvalid ⊢
    refine ⟨hover, rfl, hvalid, fun hnone => (nomatch hnone), ?_⟩
    rintro _ ⟨rfl⟩
    exact hfollows

/-- A gesture that begins has shown nothing yet. -/
theorem pointerDown (h : c.Follows shown) (geometry : Geometry) (id : String) (pointer : Position) :
    (c.pointerDown geometry id pointer).2.Follows
      (if (c.pointerDown geometry id pointer).1 then none else shown) := by
  unfold Canvas.pointerDown
  cases hdown : c.diagram.pointerDown? geometry id pointer with
  | none => exact h
  | some session =>
    -- a new gesture has shown nothing yet
    obtain ⟨block, hfind, rfl⟩ := Option.map_eq_some_iff.mp hdown
    refine ⟨h.valid, fun hnone => (nomatch hnone), ?_⟩
    rintro _ ⟨rfl⟩
    refine ⟨?_, fun hdummy => absurd rfl hdummy, rfl, fun _ hhover => nomatch hhover⟩
    show (c.diagram.program.find? id).isSome = true
    rw [hfind]
    rfl

/-- The end of a gesture does what was shown last. -/
theorem pointerUp (h : c.Follows shown) :
    c.pointerUp.2.Follows none ∧ (shown = none → c.pointerUp.1 = none) ∧
    ∀ hover, shown = some hover → ∃ session parent index moved, c.session = some session ∧
      c.pointerUp.1 = some (.committed parent index moved) ∧
      c.diagram.program.Drops c.pointerUp.2.diagram.program session.dragged hover.id hover.snap parent index := by
  have hvalid : c.pointerUp.2.diagram.program.Valid :=
    Program.Valid.keptByMoves.apply (show Edit.pointerUp.Moves from trivial) h.valid
  unfold Canvas.pointerUp at hvalid ⊢
  cases hsession : c.session with
  | none =>
    obtain rfl := h.idle hsession
    exact ⟨h, fun _ => rfl, fun _ hhover => nomatch hhover⟩
  | some session =>
    obtain ⟨-, -, hshown, hdroppable⟩ := h.session session hsession
    simp only [hsession] at hvalid
    refine ⟨⟨hvalid, fun _ => rfl, fun _ hsome => nomatch hsome⟩, fun hnone => ?_, fun hover hhover => ?_⟩
    · rw [hnone] at hshown
      simp only [Diagram.pointerUp, hshown]
    · rw [hhover] at hshown
      -- what is shown can be dropped, so the commit goes through
      obtain ⟨dummy, block, hdrop⟩ := hdroppable hover hshown
      obtain ⟨parent, index, moved, p', hcommit, hdrops⟩ := hdrop.drops h.valid
      refine ⟨session, parent, index, moved, rfl, ?_, ?_⟩
      · simp only [Diagram.pointerUp, hshown, hcommit]
      · simp only [Diagram.pointerUp, hshown, hcommit]
        exact hdrops

/-- Every event of a gesture keeps it. -/
theorem apply (h : c.Follows shown) {event : Edit} (hevent : event.IsPointer) :
    (c.apply event).Follows (event.shows c shown) := by
  cases event with
  | pointerDown geometry id pointer => exact h.pointerDown geometry id pointer
  | pointerMove geometry pointer =>
    obtain ⟨hover, hmove, hfollows⟩ := h.exists_pointerMove_eq_ok geometry pointer
    rw [Edit.shows, hmove]
    exact hfollows
  | pointerUp => exact h.pointerUp.1
  | _ => exact hevent.elim

/-- A list of such events keeps it. -/
theorem run (h : c.Follows shown) {events : List Edit} (hevents : ∀ event ∈ events, event.IsPointer) :
    (c.run events).Follows (c.shownAfter shown events) := by
  induction events generalizing c shown with
  | nil => exact h
  | cons event rest ih =>
    rw [List.forall_mem_cons] at hevents
    exact ih (h.apply hevents.1) hevents.2

end Follows

/-- What a gesture shows is what it does. On a valid program and after any events of gestures, a move does not
fail, and the end of the gesture commits the list or does nothing at all. If the last move of the gesture has
shown a target, then the list goes there, and if it has shown none, then nothing is done. The layouts are
arbitrary. -/
theorem drops_of_shown (d : Diagram) (hvalid : d.program.violations = []) (events : List Edit)
    (hevents : ∀ event ∈ events, event.IsPointer) :
    let c := (ofDiagram d).run events
    (∀ geometry pointer, ∃ hover, (c.pointerMove geometry pointer).1 = .ok hover) ∧
    (c.pointerUp.1 = none ∨ ∃ parent index moved, c.pointerUp.1 = some (.committed parent index moved)) ∧
    ((ofDiagram d).shownAfter none events = none → c.pointerUp.1 = none) ∧
    ∀ hover, (ofDiagram d).shownAfter none events = some hover →
      ∃ session parent index moved, c.session = some session ∧
        c.pointerUp.1 = some (.committed parent index moved) ∧
        c.diagram.program.Drops c.pointerUp.2.diagram.program session.dragged hover.id hover.snap parent index := by
  intro c
  have hstart : (ofDiagram d).Follows none :=
    ⟨d.program.violations_eq_nil_iff.mp hvalid, fun _ => rfl, fun _ hsome => nomatch hsome⟩
  -- along the whole history the session keeps to what is shown
  have hfollows : c.Follows ((ofDiagram d).shownAfter none events) := hstart.run hevents
  obtain ⟨-, hnothing, hdrops⟩ := hfollows.pointerUp
  refine ⟨fun geometry pointer => ?_, ?_, hnothing, hdrops⟩
  · obtain ⟨hover, hmove, -⟩ := hfollows.exists_pointerMove_eq_ok geometry pointer
    exact ⟨hover, hmove⟩
  · cases hshown : (ofDiagram d).shownAfter none events with
    | none => exact .inl (hnothing hshown)
    | some hover =>
      obtain ⟨_, parent, index, moved, -, hup, -⟩ := hdrops hover hshown
      exact .inr ⟨parent, index, moved, hup⟩

/-- A sleep is dragged out of its loop and over the once block around it, by layouts that also draw a block which
does not exist. -/
def dragOverOnce : List Edit :=
  [.pointerDown ⟨fun _ => [], fun _ => none⟩ "b" ⟨0, 0⟩,
    .pointerMove ⟨fun _ => ["nobody"], fun _ => none⟩ ⟨1, 1⟩,
    .pointerMove ⟨fun _ => ["b", "setup"], fun _ => some ⟨0, 0, 10, 10⟩⟩ ⟨2, 2⟩]

/-- A loop is taken up, is carried over the once container, and drops into it. -/
theorem drops_of_shown_dragOverOnce :
    Diagram.loopInOnce.program.violations = [] ∧
    (ofDiagram .loopInOnce).shownAfter none dragOverOnce = some ⟨"setup", .inner⟩ ∧
    ∃ session parent index moved, ((ofDiagram .loopInOnce).run dragOverOnce).session = some session ∧
      ((ofDiagram .loopInOnce).run dragOverOnce).pointerUp.1 = some (.committed parent index moved) ∧
      ((ofDiagram .loopInOnce).run dragOverOnce).diagram.program.Drops
        ((ofDiagram .loopInOnce).run dragOverOnce).pointerUp.2.diagram.program session.dragged "setup" .inner
        parent index := by
  have hvalid : Diagram.loopInOnce.program.violations = [] := by decide
  have hevents : ∀ event ∈ dragOverOnce, event.IsPointer := by
    simp [dragOverOnce, Edit.IsPointer]
  have hshown : (ofDiagram .loopInOnce).shownAfter none dragOverOnce = some ⟨"setup", .inner⟩ := by decide
  obtain ⟨-, -, -, hdrops⟩ := drops_of_shown .loopInOnce hvalid dragOverOnce hevents
  exact ⟨hvalid, hshown, hdrops _ hshown⟩

end Canvas

end Signalbox
