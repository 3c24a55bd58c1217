import Signalbox.Proofs.Block.Parent
import Signalbox.Proofs.Editor.Edit
import Signalbox.Proofs.Program.Fresh

/-!
# The ids of dummies

A dummy gets its id from a count, which goes past every number that it tries. The id is handed out before the dummy is
part of the program, and it stays used up when nothing comes of the dummy, as in a split that fails. So the numbers of
the ids that are handed out rise through a session, whatever its edits are.

Main results:

* `Program.tries_of_isLeast`: the search for a number ends at the least one that no block has.
* `Diagram.blocks_split_of_holder` / `Diagram.blocks_addBlock_of_holder` / `Diagram.dummy_pointerMove_of_holder`: the
  dummy that is made has the id that was handed out.
* `Canvas.counts_apply`: an edit hands out one id at most, and the count is behind its number afterwards.
* `Canvas.holders_new`: no id is handed out twice, and none while a block has it.
-/

namespace Signalbox

/-! ## The search -/

/-- The search for the number of a dummy: from a count on, one number after the other is tried until no block has its
name. -/
inductive Program.Tries (p : Program) : (count attempts found : Nat) → Prop where
  | free {count : Nat} (h : p.contains (dummyName count) = false) : p.Tries count 1 count
  | taken {count attempts found : Nat} (h : p.contains (dummyName count) = true)
    (rest : p.Tries (count + 1) attempts found) : p.Tries count (attempts + 1) found

/-- The search ends at the least number that is left. -/
theorem Program.tries_of_isLeast {p : Program} {count found : Nat}
    (h : IsLeast {n | count ≤ n ∧ dummyName n ∉ p.ids} found) : p.Tries count (found - count + 1) found := by
  obtain ⟨⟨hfrom, hfree⟩, hleast⟩ := h
  -- on the numbers that are passed over: the least one from a count on is also the least one from the next
  generalize hpassed : found - count = passed
  induction passed generalizing count with
  | zero =>
    obtain rfl : count = found := by omega
    exact .free (Bool.eq_false_iff.mpr fun hcontains => hfree ((p.contains_iff _).mp hcontains))
  | succ passed ih =>
    -- a free number below the least one would be less than it
    have htaken : dummyName count ∈ p.ids := by
      by_contra hcount
      have hle := hleast ⟨le_refl count, hcount⟩
      omega
    have hrest : p.Tries (count + 1) (passed + 1) found :=
      ih (fun n hn => hleast ⟨Nat.le_of_succ_le hn.1, hn.2⟩) (by omega) (by omega)
    exact .taken ((p.contains_iff _).mpr htaken) hrest

/-! ## Ids that are handed out -/

/-- The id of the dummy that a split makes, also when there is nothing to put into it. A list that is in a dummy already
needs none. -/
def Diagram.splitHolder? (d : Diagram) (id : String) (position : Position) : Option String :=
  match d.dummyFor? id with
  | some _ => none
  | none => some (d.createDummy position).1.id

/-- The id of the dummy that an addition makes. A block that stands at the top level by itself needs none. -/
def Diagram.additionHolder? (d : Diagram) (kind : Kind) : Option String :=
  if kind.type.isTopLevel then none else some (d.createDummy d.spawnPosition).1.id

/-- The id of the dummy that a move of the pointer makes, the first one of a block inside another block. -/
def Diagram.moveHolder? (d : Diagram) (session : DragSession) : Option String :=
  if d.program.contains session.dragged ∧ session.dummy.isNone ∧ ¬ d.program.isTopLevel session.dragged then
    d.splitHolder? session.dragged session.initial
  else none

/-- The id of the dummy that an edit makes. -/
def Edit.holder? (c : Canvas) : Edit → Option String
  | .addBlock _ kind => c.diagram.additionHolder? kind
  | .split id position => c.diagram.splitHolder? id position
  | .createDummy position => some (c.diagram.createDummy position).1.id
  | .pointerMove _ _ => c.session.bind c.diagram.moveHolder?
  | _ => none

/-- The ids of the dummies that a list of edits makes. -/
def Canvas.holders (c : Canvas) : List Edit → List String
  | [] => []
  | edit :: rest => (edit.holder? c).toList ++ (c.apply edit).holders rest

/-- From one diagram to another the count stays, or it goes past the number of one id. -/
inductive Diagram.Counts (d : Diagram) : Option String → Diagram → Prop where
  | keeps {d' : Diagram} (h : d'.dummyCount = d.dummyCount) : d.Counts none d'
  | uses {d' : Diagram} (h : d'.dummyCount = d.program.nextDummy d.dummyCount + 1) :
    d.Counts (some (dummyName (d.program.nextDummy d.dummyCount))) d'

namespace Diagram

/-- What happens afterwards with the count left alone makes no difference. -/
theorem Counts.of_dummyCount_eq {d d' d'' : Diagram} {holder? : Option String} (h : d.Counts holder? d')
    (hsame : d''.dummyCount = d'.dummyCount) : d.Counts holder? d'' := by
  cases h with
  | keeps h => exact .keeps (hsame.trans h)
  | uses h => exact .uses (hsame.trans h)

/-- The count never falls. -/
theorem Counts.le {d d' : Diagram} {holder? : Option String} (h : d.Counts holder? d') :
    d.dummyCount ≤ d'.dummyCount := by
  have hfrom := (d.program.isLeast_nextDummy d.dummyCount).1.1
  cases h with
  | keeps h => omega
  | uses h => omega

/-- The number of an id that is handed out. -/
theorem Counts.exists_number {d d' : Diagram} {holder : String} (h : d.Counts (some holder) d') :
    ∃ n, holder = dummyName n ∧ d.dummyCount ≤ n ∧ d'.dummyCount = n + 1 ∧ holder ∉ d.program.ids := by
  obtain ⟨⟨hfrom, hfree⟩, -⟩ := d.program.isLeast_nextDummy d.dummyCount
  cases h with
  | uses h => exact ⟨_, rfl, hfrom, h, hfree⟩

variable (d : Diagram)

/-- To move a block about hands out no id. -/
theorem dummyCount_setPosition (id : String) (position : Position) :
    (d.setPosition id position).2.dummyCount = d.dummyCount := by
  unfold setPosition
  split <;> rfl

/-- Nor does a commit. -/
theorem dummyCount_commit (hover : String) (snap : SnapType) (dragging : String) :
    (d.commit hover snap dragging).2.dummyCount = d.dummyCount := by
  unfold commit
  repeat' split
  all_goals rfl

/-- Nor does the end of a gesture. -/
theorem dummyCount_pointerUp (session : DragSession) : (d.pointerUp session).2.dummyCount = d.dummyCount := by
  unfold pointerUp
  split
  next => rfl
  next hover _ => exact d.dummyCount_commit hover.id hover.snap session.dragged

/-- Nor does an update. -/
theorem dummyCount_updateBlock {d' : Diagram} {id : String} {kind : Kind} (h : d.updateBlock id kind = .ok d') :
    d'.dummyCount = d.dummyCount := by
  unfold updateBlock at h
  split at h
  · obtain rfl := Except.ok.inj h
    rfl
  · cases h

/-- A split hands out one id, or none when the list is in a dummy already. -/
theorem counts_split (id : String) (position : Position) :
    d.Counts (d.splitHolder? id position) (d.split id position).2 := by
  unfold splitHolder? split
  cases d.dummyFor? id with
  | some dummy => exact .keeps rfl
  | none =>
    -- the count is past the number before the list is looked for
    simp only [createDummy]
    cases d.program.detach id with
    | error e => exact .uses rfl
    | ok found => exact .uses rfl

/-- A split that finds no dummy for its list hands out an id. It answers this id, or it fails. -/
theorem exists_splitHolder? {id : String} (hfor : d.dummyFor? id = none) (position : Position) :
    ∃ holder, d.splitHolder? id position = some holder ∧
      ((d.split id position).1 = .ok holder ∨ ∃ e, (d.split id position).1 = .error e) := by
  unfold splitHolder? split
  simp only [hfor, createDummy]
  refine ⟨_, rfl, ?_⟩
  cases d.program.detach id with
  | error e => exact .inr ⟨e, rfl⟩
  | ok found => exact .inl rfl

/-- The dummy that a split puts at the end of the top level has the id that was handed out for it. -/
theorem blocks_split_of_holder {id holder : String} {position : Position} {list : List Block} {rest : Program}
    (h : d.splitHolder? id position = some holder) (hdetach : d.program.detach id = .ok (list, rest)) :
    (d.split id position).2.program.blocks = rest.blocks ++ [.container holder (some position) .dummy list] := by
  unfold splitHolder? at h
  unfold split
  cases hfor : d.dummyFor? id with
  | some dummy =>
    rw [hfor] at h
    cases h
  | none =>
    rw [hfor] at h
    obtain rfl := Option.some.inj h
    simp only [createDummy, hdetach]
    rfl

/-- The dummy around a new block has the id that was handed out for it. -/
theorem blocks_addBlock_of_holder (drawn : Nat) {kind : Kind} {holder : String}
    (h : d.additionHolder? kind = some holder) :
    (d.addBlock drawn kind).2.program.blocks = d.program.blocks ++
      [.container holder (some d.spawnPosition) .dummy [kind.toBlock (d.addBlock drawn kind).1 none]] := by
  unfold additionHolder? at h
  unfold addBlock
  cases htop : kind.type.isTopLevel with
  | true =>
    rw [htop] at h
    cases h
  | false =>
    rw [htop] at h
    obtain rfl := Option.some.inj h
    rfl

/-- The gesture goes on with the dummy whose id was handed out, or the list could not be split off. -/
theorem dummy_pointerMove_of_holder {session : DragSession} {holder : String}
    (h : d.moveHolder? session = some holder) (geometry : Geometry) (pointer : Position) :
    (d.pointerMove geometry session pointer).2.1.dummy = some holder ∨
      ∃ e, (d.pointerMove geometry session pointer).1 = .error e := by
  unfold moveHolder? at h
  split_ifs at h with hsplits
  -- a holder is made only for a block that has none
  have hfor : d.dummyFor? session.dragged = none := by
    unfold splitHolder? at h
    cases hfor : d.dummyFor? session.dragged with
    | some dummy =>
      rw [hfor] at h
      cases h
    | none => rfl
  obtain ⟨holder', hholder, hanswer⟩ := d.exists_splitHolder? hfor session.initial
  obtain rfl := Option.some.inj (hholder.symm.trans h)
  unfold pointerMove
  rw [if_neg (not_not_intro hsplits.1)]
  dsimp only
  rw [if_pos hsplits.2]
  cases hsplit : d.split session.dragged session.initial with
  | mk answer split =>
    rw [hsplit] at hanswer
    rcases hanswer with rfl | ⟨e, rfl⟩
    · exact .inl rfl
    · exact .inr ⟨e, rfl⟩

/-- An addition hands out one id, or none when the new block needs no dummy. -/
theorem counts_addBlock (drawn : Nat) (kind : Kind) :
    d.Counts (d.additionHolder? kind) (d.addBlock drawn kind).2 := by
  unfold additionHolder? addBlock
  -- a block that stands at the top level by itself needs no dummy
  cases kind.type.isTopLevel with
  | true => exact .keeps rfl
  | false => exact .uses rfl

/-- A move of the pointer hands out one id, or none when nothing is split off. -/
theorem counts_pointerMove (geometry : Geometry) (session : DragSession) (pointer : Position) :
    d.Counts (d.moveHolder? session) (d.pointerMove geometry session pointer).2.2 := by
  unfold moveHolder? pointerMove
  -- a move makes a dummy only by the split, and what it does afterwards leaves the count alone
  by_cases hcontains : d.program.contains session.dragged = true
  · rw [if_neg (not_not_intro hcontains)]
    by_cases hsplits : session.dummy.isNone = true ∧ ¬ d.program.isTopLevel session.dragged = true
    · rw [if_pos ⟨hcontains, hsplits⟩]
      dsimp only
      rw [if_pos hsplits]
      have hcounts := d.counts_split session.dragged session.initial
      cases hsplit : d.split session.dragged session.initial with
      | mk answer split =>
        rw [hsplit] at hcounts
        cases answer with
        | error e => exact hcounts
        | ok dummy => exact hcounts.of_dummyCount_eq (split.dummyCount_setPosition dummy session.initial)
    · rw [if_neg fun h => hsplits h.2]
      dsimp only
      rw [if_neg hsplits]
      exact .keeps (d.dummyCount_setPosition _ _)
  · rw [if_neg fun h => hcontains h.1, if_pos hcontains]
    exact .keeps rfl

end Diagram

namespace Canvas

/-- An edit hands out one id at most, that of the least number left, and the count is behind this number afterwards. An
edit that hands out none leaves the count alone. -/
theorem counts_apply (c : Canvas) (edit : Edit) : c.diagram.Counts (edit.holder? c) (c.apply edit).diagram := by
  -- only four of the edits make a holder; the others leave the counter alone
  cases edit with
  | addBlock drawn kind => exact c.diagram.counts_addBlock drawn kind
  | split id position => exact c.diagram.counts_split id position
  | commit hover snap dragging => exact .keeps (c.diagram.dummyCount_commit hover snap dragging)
  | setPosition id position => exact .keeps (c.diagram.dummyCount_setPosition id position)
  | createDummy position => exact .uses rfl
  | updateBlock id kind =>
    cases hupdate : c.diagram.updateBlock id kind with
    | error e =>
      simp only [apply, hupdate]
      exact .keeps rfl
    | ok d =>
      simp only [apply, hupdate]
      exact .keeps (c.diagram.dummyCount_updateBlock hupdate)
  | pointerDown geometry id pointer =>
    show c.diagram.Counts none (c.pointerDown geometry id pointer).2.diagram
    unfold Canvas.pointerDown
    split <;> exact .keeps rfl
  | pointerMove geometry pointer =>
    show c.diagram.Counts (c.session.bind c.diagram.moveHolder?) (c.pointerMove geometry pointer).2.diagram
    unfold Canvas.pointerMove
    cases c.session with
    | none => exact .keeps rfl
    | some session => exact c.diagram.counts_pointerMove geometry session pointer
  | pointerUp =>
    show c.diagram.Counts none c.pointerUp.2.diagram
    unfold Canvas.pointerUp
    split
    next => exact .keeps rfl
    next session _ => exact .keeps (c.diagram.dummyCount_pointerUp session)

/-- The ids that a session hands out have numbers from the count on. -/
theorem exists_of_mem_holders {c : Canvas} {edits : List Edit} {id : String} (h : id ∈ c.holders edits) :
    ∃ n, id = dummyName n ∧ c.diagram.dummyCount ≤ n := by
  induction edits generalizing c with
  | nil => cases h
  | cons edit rest ih =>
    have hcounts := c.counts_apply edit
    rw [holders, List.mem_append, Option.mem_toList] at h
    rcases h with hhere | hlater
    · rw [hhere] at hcounts
      obtain ⟨n, hname, hfrom, -, -⟩ := hcounts.exists_number
      exact ⟨n, hname, hfrom⟩
    · obtain ⟨n, hname, hfrom⟩ := ih hlater
      exact ⟨n, hname, hcounts.le.trans hfrom⟩

/-- The ids that a session hands out are all different. -/
theorem holders_nodup (c : Canvas) (edits : List Edit) : (c.holders edits).Nodup := by
  induction edits generalizing c with
  | nil => exact List.nodup_nil
  | cons edit rest ih =>
    have hcounts := c.counts_apply edit
    rw [holders]
    cases hhere : edit.holder? c with
    | none => exact ih (c.apply edit)
    | some id =>
      rw [hhere] at hcounts
      obtain ⟨n, hname, -, hcount, -⟩ := hcounts.exists_number
      rw [Option.toList_some, List.singleton_append, List.nodup_cons]
      refine ⟨fun hlater => ?_, ih (c.apply edit)⟩
      -- an id that is handed out later has a number from the count on
      obtain ⟨m, hname', hfrom⟩ := exists_of_mem_holders hlater
      have hsame : n = m := dummyName_injective (hname.symm.trans hname')
      omega

/-- The ids of dummies are new. The search for a number ends, after one attempt for each block and one more at most, at
the least number from the count on whose name no block has, and the count is behind it afterwards; if the count and the
blocks together stay within 64 bits, then so does every number that is tried. That is not said of the count afterwards,
which is one more: it becomes 2^64 itself when the count and the blocks make 2^64 - 1 and each of these numbers is taken.
A session may consist of any edits: the ids
that it hands out are all different, and each of them is no block's when it is handed out. No other edit touches the
count, and a split that fails has handed out an id like one that goes through. -/
theorem holders_new (d : Diagram) (edits : List Edit) :
    (∃ attempts n, d.program.Tries d.dummyCount attempts n ∧ attempts ≤ d.program.ids.length + 1 ∧
      IsLeast {n | d.dummyCount ≤ n ∧ dummyName n ∉ d.program.ids} n ∧
      (∀ position, d.createDummy position =
        (.container (dummyName n) (some position) .dummy [], { d with dummyCount := n + 1 })) ∧
      (d.dummyCount + d.program.ids.length < 2 ^ 64 → n < 2 ^ 64)) ∧
    ((ofDiagram d).holders edits).Nodup ∧
    let c := (ofDiagram d).run edits
    (∀ (edit : Edit) (holder : String), edit.holder? c = some holder → holder ∉ c.diagram.program.ids) ∧
    (∀ edit : Edit, c.diagram.Counts (edit.holder? c) (c.apply edit).diagram) ∧
    ∀ (id : String) (position : Position), c.diagram.dummyFor? id = none →
      ∃ holder, (Edit.split id position).holder? c = some holder ∧
        ((c.diagram.split id position).1 = .ok holder ∨ ∃ e, (c.diagram.split id position).1 = .error e) := by
  refine ⟨?_, holders_nodup _ edits, fun edit holder hholder => ?_, fun edit => counts_apply _ edit,
    fun id position hfor => Diagram.exists_splitHolder? _ hfor position⟩
  · -- the search, then the number that it ends at
    have hleast := d.program.isLeast_nextDummy d.dummyCount
    have hle := d.program.nextDummy_le d.dummyCount
    exact ⟨_, d.program.nextDummy d.dummyCount, Program.tries_of_isLeast hleast, by omega, hleast, fun _ => rfl,
      fun hroom => by omega⟩
  · have hcounts := counts_apply ((ofDiagram d).run edits) edit
    rw [hholder] at hcounts
    obtain ⟨_, -, -, -, hfree⟩ := hcounts.exists_number
    exact hfree

/-- A program in which two blocks have the names of dummies. -/
def namesakes : Diagram :=
  .ofProgram ⟨[.container "setup" none .once
    [.statement "DUMMY_1" none (.log (.text "a")), .statement "DUMMY_3" none (.log (.text "b"))]]⟩ defaultSpawnPosition

/-- A split that fails, and one that goes through. -/
def splits : List Edit :=
  [.split "nobody" ⟨0, 0⟩, .split "DUMMY_3" ⟨0, 0⟩]

/-- A program in which two of the names are taken, and a session that goes past both. -/
theorem holders_new_namesakes :
    namesakes.dummyCount + namesakes.program.ids.length < 2 ^ 64 ∧
    (∃ attempts n, namesakes.program.Tries namesakes.dummyCount attempts n ∧
      attempts ≤ namesakes.program.ids.length + 1 ∧ n < 2 ^ 64) ∧
    ((ofDiagram namesakes).holders splits = ["DUMMY_2", "DUMMY_4"] ∧ ((ofDiagram namesakes).holders splits).Nodup) ∧
    (Edit.createDummy ⟨0, 0⟩).holder? ((ofDiagram namesakes).run splits) = some "DUMMY_5" ∧
    "DUMMY_5" ∉ ((ofDiagram namesakes).run splits).diagram.program.ids ∧
    ∃ holder, (Edit.split "setup" ⟨0, 0⟩).holder? ((ofDiagram namesakes).run splits) = some holder := by
  have hroom : namesakes.dummyCount + namesakes.program.ids.length < 2 ^ 64 := by decide
  have hholder : (Edit.createDummy ⟨0, 0⟩).holder? ((ofDiagram namesakes).run splits) = some "DUMMY_5" := by decide
  have hholders : (ofDiagram namesakes).holders splits = ["DUMMY_2", "DUMMY_4"] := by decide
  have hfor : ((ofDiagram namesakes).run splits).diagram.dummyFor? "setup" = none := by rfl
  obtain ⟨⟨attempts, n, htries, hattempts, -, -, hbits⟩, hnodup, hnew, -, hsplit⟩ := holders_new namesakes splits
  obtain ⟨holder, hmade, -⟩ := hsplit "setup" ⟨0, 0⟩ hfor
  exact ⟨hroom, ⟨attempts, n, htries, hattempts, hbits hroom⟩, ⟨hholders, hnodup⟩, hholder, hnew _ _ hholder, holder,
    hmade⟩

end Canvas

end Signalbox
