import Signalbox.Proofs.Block.Preorder
import Signalbox.Proofs.Run.Brackets
import Signalbox.Proofs.Run.Failure

/-!
# Stopped runs

A run is stopped by clearing its flag, which the surroundings may do at any event. The run looks at the flag
before every block, before every pass and at every poll, and so nothing begins any more. What is left to do is
what the block in flight was about to do, to end the blocks that have begun, and at most one sleep before the
pass that does not come.

Main results:

* `Run.Goes.unwinds` / `Run.GoesPasses.unwinds` / `Run.GoesProgram.unwinds`: what is left of a run that is stopped.
* `Run.Goes.head_openAfter`: the block in flight when a run fails.
* `Run.unwinds_of_stopped`: what is left of a stopped run of a program, how it ends, and that a run which does
  not say that it was stopped was not.
-/

namespace Signalbox

variable {σ : Type}

namespace Doing

/-- Something that is logged, an alert, or what a runner does. -/
def isEffect : Doing → Bool
  | .event (.log _) | .event (.alert _) | .event (.runner _) | .runner _ => true
  | _ => false

def isSleep : Doing → Bool
  | .event (.sleep _) => true
  | _ => false

def isPass : Doing → Bool
  | .pass => true
  | _ => false

end Doing

namespace Run

/-! ## The world and the blocks in flight at a point of a run -/

/-- The blocks that have begun and not ended after something is done, the one that began last first. -/
def openOnce (opened : List String) : Doing → List String
  | .event (.active (some id)) => id :: opened
  | .event (.active none) => opened.tail
  | _ => opened

/-- The blocks that have begun and not ended after a journal, the one that began last first. -/
def openAfter (opened : List String) (j : Journal σ) : List String :=
  j.foldl (fun opened m => openOnce opened m.doing) opened

/-- The block that has begun last and not ended. -/
def inFlight (j : Journal σ) : Option String :=
  (openAfter [] j).head?

/-- The blocks in flight after two journals, one after the other. -/
theorem openAfter_append (opened : List String) (j j' : Journal σ) :
    openAfter opened (j ++ j') = openAfter (openAfter opened j) j' :=
  List.foldl_append

/-- What is no beginning and no end of a block leaves the blocks in flight as they are. -/
theorem openOnce_of_silent {doing : Doing} (h : Silent doing) (opened : List String) :
    openOnce opened doing = opened := by
  unfold openOnce
  split
  · exact h.elim
  · exact h.elim
  · rfl

variable {env : Environment σ} {stage : Stage} {blocks : List Block} {p : Program} {w w' : World σ}
  {j before after : Journal σ} {outcome : Except Halt Unit}

/-- An event does not set the flag. -/
theorem running_emit (h : w.running = false) (env : Environment σ) (event : Event) :
    (env.emit event w).running = false := by
  rw [Environment.emit]
  split_ifs
  · show (w.running && _) = false
    rw [h, Bool.false_and]
  · exact h

/-- Nor does a runner. -/
theorem running_runner {block : Block} {runner : StateM (World σ) (Except String Unit)}
    (hrunner : env.runner? block = some runner) (h : w.running = false) : (runner w).2.running = false := by
  rcases Environment.runner?_cases hrunner with ⟨outcome, -, rfl⟩ | ⟨channel, command, -, -, -, rfl⟩
  · exact running_emit h env _
  · rw [Environment.running_deliver]
    exact h

/-! ## Runs that begin with the flag cleared -/

/-- With the flag cleared a list of blocks does nothing. -/
theorem Goes.blocks_of_stopped (h : Goes env (.blocks blocks) w j outcome w') (hw : w.running = false) :
    j = [] ∧ outcome = .ok () ∧ w' = w := by
  cases h with
  | nil | stopped => exact ⟨rfl, rfl, rfl⟩
  | halted h | next h =>
    rw [hw] at h
    cases h

/-- With the flag cleared the rounds of a loop do nothing. -/
theorem Goes.times_of_stopped {count : Nat} (h : Goes env (.times count blocks) w j outcome w')
    (hw : w.running = false) : j = [] ∧ outcome = .ok () ∧ w' = w := by
  induction count generalizing j with
  | zero =>
    cases h
    exact ⟨rfl, rfl, rfl⟩
  | succ count ih =>
    cases h with
    | timesHalted hblocks =>
      obtain ⟨-, hok, -⟩ := hblocks.blocks_of_stopped hw
      cases hok
    | timesNext hblocks hrest =>
      obtain ⟨rfl, -, rfl⟩ := hblocks.blocks_of_stopped hw
      exact ih hrest

/-- With the flag cleared no pass begins. -/
theorem GoesPasses.of_stopped {begun : Nat} {outcome : Except Halt Nat}
    (h : GoesPasses env blocks begun w j outcome w') (hw : w.running = false) :
    j = [] ∧ w' = w ∧ ∀ error, outcome ≠ .error (.failed error) := by
  cases h with
  | empty | stopped | outOfPatience =>
    refine ⟨rfl, rfl, fun error herror => ?_⟩
    cases herror
  | halted h | last h | next h =>
    rw [hw] at h
    cases h

/-! ## What is left -/

/-- What a part of a run begins with by itself. -/
def Stage.Does (tick : Nat) : Stage → Doing → Prop
  | .blocks _, _ | .times .., _ => False
  | .block root, doing => Own tick root doing
  | .poll .., doing => doing = .event (.sleep tick)

/-- One of the blocks has just begun, and this is what it does by itself. -/
def Begun (tick : Nat) (blocks : List Block) (before : Journal σ) (doing : Doing) : Prop :=
  ∃ block ∈ blocks, ∃ earlier world,
    before = earlier ++ [⟨.event (.active (some block.id)), world⟩] ∧ Own tick block doing

/-- A part of a run has just begun, or one of the blocks inside it. -/
def Stage.Begun (tick : Nat) (stage : Stage) (before : Journal σ) (doing : Doing) : Prop :=
  (before = [] ∧ stage.Does tick doing) ∨ Run.Begun tick (Block.preorderIn stage.inside) before doing

/-- What has just begun has just begun, whatever was done before. -/
theorem Begun.append {tick : Nat} {doing : Doing} (h : Begun tick blocks before doing) (earlier : Journal σ) :
    Begun tick blocks (earlier ++ before) doing := by
  obtain ⟨block, hblock, earlier', world, rfl, hown⟩ := h
  exact ⟨block, hblock, earlier ++ earlier', world, (List.append_assoc _ _ _).symm, hown⟩

/-- What has just begun among some blocks has done so among more of them. -/
theorem Begun.mono {tick : Nat} {blocks' : List Block} {doing : Doing} (h : Begun tick blocks before doing)
    (hsub : blocks ⊆ blocks') : Begun tick blocks' before doing := by
  obtain ⟨block, hblock, hbegun⟩ := h
  exact ⟨block, hsub hblock, hbegun⟩

/-- A list of blocks does nothing by itself. -/
theorem Stage.Begun.begun {tick : Nat} {doing : Doing} (h : Stage.Begun tick stage before doing)
    (hstage : ∀ doing, ¬ stage.Does tick doing) : Run.Begun tick (Block.preorderIn stage.inside) before doing := by
  rcases h with ⟨-, hdoes⟩ | hbegun
  · exact (hstage doing hdoes).elim
  · exact hbegun

/-- At most one thing of this kind, and then only ends of blocks. -/
structure Unwinds (own : Doing → Prop) (first : Option (Moment σ)) (ends after : Journal σ) : Prop where
  split : after = first.toList ++ ends
  own : ∀ m ∈ first, own m.doing
  ends : ∀ m ∈ ends, m.doing = .event (.active none)

/-- At most one thing of this kind, then only ends of blocks, and at most one sleep of a tick. -/
structure Leftover (own : Doing → Prop) (tick : Nat) (first : Option (Moment σ)) (ends : Journal σ)
    (sleep : Option (Moment σ)) (after : Journal σ) : Prop where
  split : after = first.toList ++ ends ++ sleep.toList
  own : ∀ m ∈ first, own m.doing
  ends : ∀ m ∈ ends, m.doing = .event (.active none)
  sleep : ∀ m ∈ sleep, m.doing = .event (.sleep tick)

/-- A list that is split before, at or after one of its elements. -/
theorem split_append_cons {α : Type} {l l' before after : List α} {a : α}
    (h : l ++ a :: l' = before ++ after) :
    (∃ more, l = before ++ more ∧ after = more ++ a :: l') ∨
      ∃ more, before = l ++ a :: more ∧ l' = more ++ after := by
  rcases List.append_eq_append_iff.mp h with ⟨more, hbefore, hmore⟩ | ⟨more, hl, hafter⟩
  · cases more with
    | nil => exact .inl ⟨[], by simpa using hbefore.symm, by simpa using hmore.symm⟩
    | cons b more =>
      obtain ⟨rfl, rfl⟩ := List.cons.inj hmore
      exact .inr ⟨more, hbefore, rfl⟩
  · exact .inl ⟨more, hl, hafter⟩

/-- A block that has just begun is the first of a list, or one of the blocks inside it has. -/
theorem Stage.Begun.beginning {tick : Nat} {block : Block} {rest : List Block} {doing : Doing}
    (h : Stage.Begun tick (.block block) before doing) (world : World σ) :
    Run.Begun tick (Block.preorderIn (block :: rest)) (⟨.event (.active (some block.id)), world⟩ :: before)
      doing := by
  rcases h with ⟨rfl, hown⟩ | hinside
  · exact ⟨block, Block.mem_preorderIn List.mem_cons_self, [], world, rfl, hown⟩
  · exact (hinside.mono (Block.preorderIn_children_subset List.mem_cons_self)).append [_]

theorem Unwinds.mono {own own' : Doing → Prop} {first : Option (Moment σ)} {ends : Journal σ}
    (h : Unwinds own first ends after) (hown : ∀ doing, own doing → own' doing) : Unwinds own' first ends after :=
  ⟨h.split, fun m hm => hown _ (h.own m hm), h.ends⟩

theorem Unwinds.leftover {own : Doing → Prop} {first : Option (Moment σ)} {ends : Journal σ}
    (h : Unwinds own first ends after) (tick : Nat) : Leftover own tick first ends none after :=
  ⟨by rw [Option.toList_none, List.append_nil, h.split], h.own, h.ends, fun _ hm => nomatch hm⟩

/-- What is left of one kind is left of a wider one, with the sleep at the end. -/
theorem Leftover.mono {own own' : Doing → Prop} {tick : Nat} {first sleep : Option (Moment σ)} {ends : Journal σ}
    (h : Leftover own tick first ends sleep after) (hown : ∀ doing, own doing → own' doing) :
    Leftover own' tick first ends sleep after :=
  ⟨h.split, fun m hm => hown _ (h.own m hm), h.ends, h.sleep⟩

theorem unwinds_nil (own : Doing → Prop) : Unwinds (σ := σ) own none [] [] :=
  ⟨rfl, fun _ hm => (nomatch hm), fun _ hm => nomatch hm⟩

/-- A journal in which the flag is cleared later than its first entry. -/
theorem exists_of_running {m : Moment σ} (hrunning : w.running = true) (hj : m :: j = before ++ after)
    (hstop : (standing w before).running = false) :
    ∃ before', before = m :: before' ∧ j = before' ++ after ∧ (standing m.world before').running = false := by
  cases before with
  | nil => exact absurd (hrunning.symm.trans hstop) (by decide)
  | cons m' before' =>
    obtain ⟨rfl, htail⟩ := List.cons.inj hj
    exact ⟨before', rfl, htail, hstop⟩

/-- What is left of a part of a run whose flag is cleared: at most one thing of this kind, and then only ends
of blocks. A part of a run that is halted does not even end the blocks. -/
def Left (own : Doing → Prop) (w' : World σ) (outcome : Except Halt Unit) (after : Journal σ) : Prop :=
  w'.running = false ∧ ∃ first ends, Unwinds own first ends after ∧ (outcome ≠ .ok () → ends = [])

/-- What is left of one kind of a part of a run is left of a wider one. -/
theorem Left.mono {own own' : Doing → Prop} (h : Left own w' outcome after)
    (hown : ∀ doing, own doing → own' doing) : Left own' w' outcome after := by
  obtain ⟨hw', first, ends, hunwinds, hends⟩ := h
  exact ⟨hw', first, ends, hunwinds.mono hown, hends⟩

/-- A part of a run that does nothing. -/
theorem left_nil (own : Doing → Prop) (hstop : w.running = false) (outcome : Except Halt Unit) :
    Left own w outcome [] :=
  ⟨hstop, none, [], unwinds_nil _, fun _ => rfl⟩

/-- A part of a run that does a single thing. -/
theorem left_single {m : Moment σ} (hdoes : stage.Does env.tick m.doing)
    (hrunning : w.running = false → m.world.running = false) (hj : [m] = before ++ after)
    (hstop : (standing w before).running = false) (outcome : Except Halt Unit) :
    Left (stage.Begun env.tick before) m.world outcome after := by
  -- the flag is cleared before the one thing that is done, or by it
  cases before with
  | nil =>
    obtain rfl : [m] = after := hj
    refine ⟨hrunning hstop, some m, [], ⟨rfl, fun m' hm' => ?_, fun _ hm => nomatch hm⟩, fun _ => rfl⟩
    obtain rfl := Option.mem_some.mp hm'
    exact .inl ⟨rfl, hdoes⟩
  | cons m' before =>
    obtain ⟨rfl, hnil⟩ := List.cons.inj hj
    obtain ⟨rfl, rfl⟩ := List.append_eq_nil_iff.mp hnil.symm
    exact left_nil _ hstop _

/-- The block ends in which the flag was cleared. -/
theorem Left.ended {own : Doing → Prop} (h : Left own w outcome after) (env : Environment σ) :
    Left own (env.emit (.active none) w) (.ok ()) (after ++ [env.moment (.active none) w]) := by
  obtain ⟨hw, first, ends, hunwinds, -⟩ := h
  refine ⟨running_emit hw env _, first, ends ++ [env.moment (.active none) w], ⟨?_, hunwinds.own, ?_⟩, ?_⟩
  · rw [hunwinds.split, List.append_assoc]
  · intro m hm
    rcases List.mem_append.mp hm with hm | hm
    · exact hunwinds.ends m hm
    · obtain rfl := List.mem_singleton.mp hm
      rfl
  · exact fun hok => absurd rfl hok

/-- What has just begun in a list of blocks is one of them, or a block inside them. -/
theorem Stage.Begun.of_blocks {tick : Nat} {doing : Doing} (h : Stage.Begun tick (.blocks blocks) before doing) :
    Run.Begun tick (Block.preorderIn blocks) before doing :=
  h.begun fun _ hdoes => hdoes

/-- What is left of a part of a run whose flag is cleared: what the block in flight was about to do, and the
ends of blocks. -/
theorem Goes.unwinds (h : Goes env stage w j outcome w') : ∀ {before after}, j = before ++ after →
    (standing w before).running = false → Left (stage.Begun env.tick before) w' outcome after := by
  induction h with
  | nil | stopped | fail | zero | outOfPatience =>
    intro before after hj hstop
    obtain ⟨rfl, rfl⟩ := List.append_eq_nil_iff.mp hj.symm
    exact left_nil _ hstop _
  | @halted block rest w _ _ _ hrunning _ ih =>
    intro before after hj hstop
    obtain ⟨before, rfl, htail, hstop⟩ := exists_of_running hrunning hj hstop
    exact (ih htail hstop).mono fun doing hbegun => .inr (hbegun.beginning _)
  | @next block rest w w₁ _ j j' _ hrunning hblock hrest ihBlock ihRest =>
    intro before after hj hstop
    obtain ⟨before, rfl, htail, hstop⟩ := exists_of_running hrunning hj hstop
    rcases split_append_cons htail with ⟨more, hmore, rfl⟩ | ⟨more, rfl, hmore⟩
    · -- the flag is cleared inside the block, or at its end: the block ends and no other begins
      have hleft := (ihBlock hmore hstop).ended env
      obtain ⟨rfl, rfl, rfl⟩ := hrest.blocks_of_stopped hleft.1
      exact hleft.mono fun doing hbegun => .inr (hbegun.beginning _)
    · -- the flag is cleared later
      rw [standing_append] at hstop
      refine (ihRest hmore hstop).mono fun doing hbegun => .inr ?_
      have hlater := hbegun.of_blocks.append
        (env.moment (.active (some block.id)) w :: (j ++ [env.moment (.active none) w₁]))
      rw [List.cons_append, List.append_assoc] at hlater
      exact hlater.mono (List.subset_append_right _ _)
  | @runner block _ _ h =>
    intro before after hj hstop
    have hdoes : (Stage.block block).Does env.tick (.runner block) := Own.runner block
    exact left_single hdoes (running_runner (runner?_of_course h)) hj hstop _
  | @event block _ event h =>
    intro before after hj hstop
    have hdoes : (Stage.block block).Does env.tick (.event event) := own_of_course_event h
    exact left_single hdoes (fun hw => running_emit hw env _) hj hstop _
  | children _ _ ih | timesHalted _ ih =>
    intro before after hj hstop
    exact (ih hj hstop).mono fun _ hbegun => .inr hbegun.of_blocks
  | poll h _ ih =>
    intro before after hj hstop
    refine (ih hj hstop).mono fun doing hbegun => ?_
    -- the sleep of a poll is what the waiting block does by itself
    rcases hbegun with ⟨hbefore, rfl⟩ | ⟨block, hblock, -⟩
    · exact .inl ⟨hbefore, own_of_course_poll h⟩
    · cases hblock
  | @timesNext count blocks w w₁ _ j j' _ hblocks hrest ihBlocks ihRest =>
    intro before after hj hstop
    rcases List.append_eq_append_iff.mp hj with ⟨more, rfl, hmore⟩ | ⟨more, hmore, rfl⟩
    · -- the flag is cleared in a later round
      rw [standing_append, hblocks.standing_eq] at hstop
      exact (ihRest hmore hstop).mono fun _ hbegun =>
        .inr ((hbegun.begun fun _ hdoes => hdoes).append j)
    · -- the flag is cleared in this round, and the others do nothing
      have hleft := ihBlocks hmore hstop
      obtain ⟨rfl, rfl, rfl⟩ := hrest.times_of_stopped hleft.1
      rw [List.append_nil]
      exact hleft.mono fun _ hbegun => .inr hbegun.of_blocks
  | pollFails | pollEnds =>
    intro before after hj hstop
    have hdoes (id : String) (c : Condition) :
        (Stage.poll id c).Does env.tick (.event (.sleep env.tick)) := rfl
    exact left_single (hdoes _ _) (fun hw => running_emit hw env _) hj hstop _
  | @pollAgain _ _ w _ _ _ _ hrunning _ ih =>
    intro before after hj hstop
    cases before with
    | nil =>
      have hstopped := running_emit hstop env (.sleep env.tick)
      exact absurd (hrunning.symm.trans hstopped) (by decide)
    | cons m before =>
      obtain ⟨rfl, htail⟩ := List.cons.inj hj
      refine (ih htail hstop).mono fun doing hbegun => ?_
      -- the flag is looked at between two sleeps
      rcases hbegun with ⟨rfl, -⟩ | ⟨block, hblock, -⟩
      · exact absurd (hrunning.symm.trans hstop) (by decide)
      · cases hblock

/-- What is left of the passes over a forever container: besides, there may be the sleep before the pass that
does not come. -/
theorem GoesPasses.unwinds {begun : Nat} {outcome : Except Halt Nat}
    (h : GoesPasses env blocks begun w j outcome w') : ∀ {before after}, j = before ++ after →
    (standing w before).running = false → w'.running = false ∧ ∃ first ends sleep,
      Leftover (Begun env.tick (Block.preorderIn blocks) before) env.tick first ends sleep after ∧
      ∀ error, outcome = .error (.failed error) → ends = [] ∧ sleep = none := by
  induction h with
  -- without any moment the flag was cleared before the passes
  | empty | stopped | outOfPatience =>
    intro before after hj hstop
    obtain ⟨rfl, rfl⟩ := List.append_eq_nil_iff.mp hj.symm
    exact ⟨hstop, none, [], none, (unwinds_nil _).leftover _, fun _ _ => ⟨rfl, rfl⟩⟩
  -- the flag is cleared in the one pass there is, which leaves what it leaves
  | @halted _ w _ j halt hrunning hblocks =>
    intro before after hj hstop
    obtain ⟨before, rfl, htail, hstop⟩ := exists_of_running hrunning hj hstop
    obtain ⟨hw', first, ends, hunwinds, hends⟩ := hblocks.unwinds htail hstop
    refine ⟨hw', first, ends, none, (hunwinds.leftover _).mono fun _ hbegun => ?_, fun _ _ => ⟨?_, rfl⟩⟩
    · exact hbegun.of_blocks.append [_]
    · exact hends fun hok => nomatch hok
  | @last _ w _ j hrunning hblocks _ =>
    intro before after hj hstop
    obtain ⟨before, rfl, htail, hstop⟩ := exists_of_running hrunning hj hstop
    obtain ⟨hw', first, ends, hunwinds, -⟩ := hblocks.unwinds htail hstop
    refine ⟨hw', first, ends, none, (hunwinds.leftover _).mono fun _ hbegun => ?_,
      fun _ herror => nomatch herror⟩
    exact hbegun.of_blocks.append [_]
  | @next _ w w₁ _ j j' outcome hrunning hblocks _ hrest ih =>
    intro before after hj hstop
    obtain ⟨before, rfl, htail, hstop⟩ := exists_of_running hrunning hj hstop
    rcases split_append_cons htail with ⟨more, hmore, rfl⟩ | ⟨more, rfl, hmore⟩
    · -- the flag is cleared in this pass: a sleep, and no further pass
      obtain ⟨hw₁, first, ends, hunwinds, -⟩ := hblocks.unwinds hmore hstop
      obtain ⟨rfl, rfl, hfailed⟩ := hrest.of_stopped (running_emit hw₁ env _)
      refine ⟨running_emit hw₁ env _, first, ends, some (env.moment (.sleep env.tick) w₁),
        ⟨?_, fun m hm => ?_, hunwinds.ends, fun m hm => ?_⟩,
        fun error herror => absurd herror (hfailed error)⟩
      · rw [hunwinds.split]
        rfl
      · exact (hunwinds.own m hm).of_blocks.append [_]
      · obtain rfl := Option.mem_some.mp hm
        rfl
    · -- the flag is cleared in the sleep after this pass, or later
      rw [standing_append] at hstop
      obtain ⟨hw', first, ends, sleep, hleft, hfailed⟩ := ih hmore hstop
      refine ⟨hw', first, ends, sleep, hleft.mono fun _ hbegun => ?_, hfailed⟩
      have hlater := hbegun.append (⟨.pass, w⟩ :: (j ++ [env.moment (.sleep env.tick) w₁]))
      rw [List.cons_append, List.append_assoc] at hlater
      exact hlater

theorem GoesProgram.unwinds {outcome : Except Halt RunSummary} (h : GoesProgram env p w j outcome w')
    (hj : j = before ++ after) (hstop : (standing w before).running = false) :
    w'.running = false ∧ ∃ first ends sleep,
      Leftover (Begun env.tick (reached p) before) env.tick first ends sleep after ∧
      ∀ error, outcome = .error (.failed error) → ends = [] ∧ sleep = none := by
  -- the once container is run first, and then nothing is begun for the forever container
  have honce {w₁ : World σ} {j : Journal σ} {outcome : Except Halt Unit} {after : Journal σ}
      (h : Goes env (.blocks (childrenOf p .once)) w j outcome w₁) (hj : j = before ++ after) :
      w₁.running = false ∧ ∃ first ends,
        Leftover (Begun env.tick (reached p) before) env.tick first ends none after ∧
        (outcome ≠ .ok () → ends = []) := by
    obtain ⟨hw₁, first, ends, hunwinds, hends⟩ := h.unwinds hj hstop
    refine ⟨hw₁, first, ends, (hunwinds.leftover _).mono fun _ hbegun => ?_, hends⟩
    exact hbegun.of_blocks.mono (List.subset_append_left _ _)
  have hforever {w₁ : World σ} {j j' : Journal σ} {outcome : Except Halt Nat}
      (h : Goes env (.blocks (childrenOf p .once)) w j (.ok ()) w₁)
      (hpasses : GoesPasses env (childrenOf p .forever) 0 w₁ j' outcome w')
      (hj : j ++ j' = before ++ after) : w'.running = false ∧ ∃ first ends sleep,
        Leftover (Begun env.tick (reached p) before) env.tick first ends sleep after ∧
        ∀ error, outcome = .error (.failed error) → ends = [] ∧ sleep = none := by
    rcases List.append_eq_append_iff.mp hj with ⟨more, rfl, hmore⟩ | ⟨more, hmore, rfl⟩
    · rw [standing_append, h.standing_eq] at hstop
      obtain ⟨hw', first, ends, sleep, hleft, hfailed⟩ := hpasses.unwinds hmore hstop
      refine ⟨hw', first, ends, sleep, hleft.mono fun _ hbegun => ?_, hfailed⟩
      exact (hbegun.append j).mono (List.subset_append_right _ _)
    · obtain ⟨hw₁, first, ends, hleft, -⟩ := honce h hmore
      obtain ⟨rfl, rfl, hfailed⟩ := hpasses.of_stopped hw₁
      rw [List.append_nil]
      exact ⟨hw₁, first, ends, none, hleft, fun error herror => absurd herror (hfailed error)⟩
  cases h with
  | onceHalted h =>
    obtain ⟨hw', first, ends, hleft, hends⟩ := honce h hj
    exact ⟨hw', first, ends, none, hleft, fun _ _ => ⟨hends fun hok => (nomatch hok), rfl⟩⟩
  | foreverHalted h hpasses =>
    obtain ⟨hw', first, ends, sleep, hleft, hfailed⟩ := hforever h hpasses hj
    refine ⟨hw', first, ends, sleep, hleft, fun error herror => hfailed error ?_⟩
    exact congrArg _ (Except.error.inj herror)
  | ends h hpasses =>
    obtain ⟨hw', first, ends, sleep, hleft, -⟩ := hforever h hpasses hj
    exact ⟨hw', first, ends, sleep, hleft, fun _ herror => nomatch herror⟩

/-! ## Blocks in flight -/

/-- A part of a run that ends has ended all the blocks that began in it. -/
theorem Goes.openAfter_eq (h : Goes env stage w j outcome w') (hok : outcome = .ok ()) (opened : List String) :
    openAfter opened j = opened := by
  -- on the rules: a block that begins ends again, and nothing else is in flight
  induction h generalizing opened with
  | nil | stopped | zero | pollEnds => rfl
  | halted | fail | outOfPatience | timesHalted | pollFails => cases hok
  | @next block _ _ _ _ j j' _ _ _ _ ihBlock ihRest =>
    show openAfter (block.id :: opened) (j ++ _) = opened
    rw [openAfter_append, ihBlock rfl]
    exact ihRest hok opened
  | runner => rfl
  | event h => exact openOnce_of_silent (own_of_course_event h).silent opened
  | children _ _ ih | poll _ _ ih | pollAgain _ _ _ ih => exact ih hok opened
  | timesNext _ _ ihBlocks ihRest => rw [openAfter_append, ihBlocks rfl, ihRest hok]

/-- The block that fails is the one that began last and has not ended. -/
theorem Goes.head_openAfter (h : Goes env stage w j outcome w') {error : RunError}
    (herror : outcome = .error (.failed error)) (opened : List String)
    (hown : ∀ id, stage.own? = some id → opened.head? = some id) :
    (openAfter opened j).head? = some error.block := by
  -- on the rules: the failure comes from the last part, and all before it has ended
  induction h generalizing opened with
  | nil | stopped | event | zero | outOfPatience | pollEnds => cases herror
  | @halted block _ _ _ _ _ _ _ ih => exact ih herror (block.id :: opened) fun id hid => hid
  -- a block that ends has closed what it opened, so the failure is in the rest
  | @next block _ _ _ _ j j' _ _ hblock _ _ ihRest =>
    show (openAfter (block.id :: opened) (j ++ _)).head? = _
    rw [openAfter_append, hblock.openAfter_eq rfl]
    exact ihRest herror opened fun _ hid => nomatch hid
  | @runner block w runner h =>
    have hid : error.block = block.id := by
      cases hanswer : (runner w).1 with
      | ok =>
        rw [hanswer] at herror
        cases herror
      | error message =>
        rw [hanswer] at herror
        cases herror
        rfl
    rw [hid]
    exact hown block.id rfl
  | children _ _ ih => exact ih herror opened fun _ hid => nomatch hid
  | poll _ _ ih => exact ih herror opened hown
  | fail h =>
    cases herror
    rw [block_of_course_fail h]
    exact hown _ rfl
  | timesHalted _ ih => exact ih herror opened fun _ hid => nomatch hid
  | timesNext hblocks _ _ ihRest =>
    rw [openAfter_append, hblocks.openAfter_eq rfl]
    exact ihRest herror opened fun _ hid => nomatch hid
  | pollFails =>
    cases herror
    exact hown _ rfl
  | pollAgain _ _ _ ih => exact ih herror opened hown

/-- A pass fails in the block in flight. -/
theorem GoesPasses.head_openAfter {begun : Nat} {outcome : Except Halt Nat}
    (h : GoesPasses env blocks begun w j outcome w') {error : RunError}
    (herror : outcome = .error (.failed error)) : inFlight j = some error.block := by
  induction h with
  | empty | stopped | outOfPatience | last => cases herror
  | halted _ hblocks =>
    exact hblocks.head_openAfter (congrArg _ (Except.error.inj herror)) [] fun _ hid => nomatch hid
  | @next _ _ _ _ j _ _ _ hblocks _ _ ih =>
    show (openAfter [] (j ++ _)).head? = _
    rw [openAfter_append, hblocks.openAfter_eq rfl]
    exact ih herror

/-- A program fails in the block in flight. -/
theorem GoesProgram.inFlight_eq {outcome : Except Halt RunSummary} (h : GoesProgram env p w j outcome w')
    {error : RunError} (herror : outcome = .error (.failed error)) : inFlight j = some error.block := by
  cases h with
  | onceHalted honce =>
    exact honce.head_openAfter (congrArg _ (Except.error.inj herror)) [] fun _ hid => nomatch hid
  | foreverHalted honce hforever =>
    rw [inFlight, openAfter_append, honce.openAfter_eq rfl]
    exact hforever.head_openAfter (congrArg _ (Except.error.inj herror))
  | ends => cases herror

/-! ## Passes -/

/-- No pass is counted inside a list of blocks. -/
theorem Goes.countP_isPass (h : Goes env stage w j outcome w') : j.countP (·.doing.isPass) = 0 := by
  induction h with
  | nil | stopped | fail | zero | outOfPatience | runner | event | pollFails | pollEnds => rfl
  | halted _ _ ih => exact ih
  | @next _ _ _ _ _ j j' _ _ _ _ ihBlock ihRest =>
    show (j ++ _).countP _ = 0
    rw [List.countP_append, ihBlock, Nat.zero_add]
    exact ihRest
  | children _ _ ih | poll _ _ ih | timesHalted _ ih | pollAgain _ _ _ ih => exact ih
  | timesNext _ _ ihBlocks ihRest => rw [List.countP_append, ihBlocks, ihRest]

/-- Every pass that is counted is in the journal. -/
theorem GoesPasses.countP_isPass {begun n : Nat} {outcome : Except Halt Nat}
    (h : GoesPasses env blocks begun w j outcome w') (hok : outcome = .ok n) :
    n = begun + j.countP (·.doing.isPass) := by
  induction h with
  | empty | stopped =>
    cases hok
    rfl
  | outOfPatience | halted => cases hok
  | last _ hblocks _ =>
    cases hok
    rw [List.countP_cons_of_pos rfl, hblocks.countP_isPass]
  -- this pass, those of its blocks, which are none, and those that follow
  | @next begun _ w₁ _ j j' _ _ hblocks _ _ ih =>
    have hrest := ih hok
    have hsleep : (env.moment (.sleep env.tick) w₁ :: j').countP (·.doing.isPass) = j'.countP (·.doing.isPass) :=
      rfl
    rw [List.countP_cons_of_pos rfl, List.countP_append, hblocks.countP_isPass, hsleep]
    omega

/-- The summary tells how many passes were counted and whether the flag was cleared. -/
theorem GoesProgram.countP_isPass {summary : RunSummary} (h : GoesProgram env p w j (.ok summary) w') :
    summary.foreverPasses = j.countP (·.doing.isPass) ∧ summary.cancelled = ! w'.running := by
  cases h with
  | ends honce hforever =>
    refine ⟨?_, ?_⟩
    · rw [List.countP_append, honce.countP_isPass]
      exact hforever.countP_isPass rfl
    · simp

/-! ## Programs -/

/-- A block that has just begun is the block in flight. -/
theorem Begun.inFlight_eq {tick : Nat} {doing : Doing} (h : Begun tick blocks before doing) :
    ∃ block ∈ blocks, inFlight before = some block.id ∧ Own tick block doing := by
  obtain ⟨block, hblock, earlier, world, rfl, hown⟩ := h
  refine ⟨block, hblock, ?_, hown⟩
  rw [inFlight, openAfter_append]
  rfl

/-- The block in flight does nothing that another one could be in flight after. -/
theorem Begun.silent {tick : Nat} {doing : Doing} (h : Begun tick blocks before doing) : Silent doing := by
  obtain ⟨_, _, _, _, _, hown⟩ := h
  exact hown.silent

/-- What is left of a run whose flag is cleared, and where it fails. -/
theorem GoesRun.unwinds {outcome : Except Halt RunSummary} (h : GoesRun env p w j outcome w')
    (hj : j = before ++ after) (hstop : (standing w before).running = false) :
    w'.running = false ∧
    (∃ first ends sleep, Leftover (Begun env.tick (reached p) before) env.tick first ends sleep after) ∧
    ∀ error, outcome = .error (.failed error) → inFlight (before.take (j.length - 1)) = some error.block := by
  cases h with
  | ends hprogram | outOfPatience hprogram =>
    obtain ⟨hw', first, ends, sleep, hleft, -⟩ := hprogram.unwinds hj hstop
    refine ⟨hw', ⟨first, ends, sleep, hleft⟩, fun error herror => ?_⟩
    cases herror
  | @failed w₁ j error hprogram =>
    have hflight : inFlight j = some error.block := hprogram.inFlight_eq rfl
    -- the last event of a failed run stands behind all else
    have hlength : (j ++ [env.moment (.active none) w₁]).length - 1 = j.length := by
      rw [List.length_append, List.length_singleton, Nat.add_sub_cancel]
    rcases split_append_cons hj with ⟨more, rfl, rfl⟩ | ⟨more, rfl, hmore⟩
    · -- the flag is cleared before the failure, which ends no block
      obtain ⟨hw₁, first, ends, sleep, hleft, hfailed⟩ := hprogram.unwinds rfl hstop
      obtain ⟨rfl, rfl⟩ := hfailed error rfl
      have hmore : more = first.toList := by
        rw [hleft.split, Option.toList_none, List.append_nil, List.append_nil]
      refine ⟨running_emit hw₁ env _, ⟨first, [env.moment (.active none) w₁], none, ?_, hleft.own, ?_, ?_⟩, ?_⟩
      · rw [hmore, Option.toList_none, List.append_nil]
      · intro m hm
        obtain rfl := List.mem_singleton.mp hm
        rfl
      · exact hleft.sleep
      · rintro error' herror
        cases herror
        rw [hlength, List.take_of_length_le (by simp), ← hflight, inFlight, inFlight, openAfter_append, hmore]
        -- what the block in flight does does not change which block that is
        cases first with
        | none => rfl
        | some m => exact congrArg _ (openOnce_of_silent (hleft.own m rfl).silent _).symm
    · -- the flag is cleared at the last event
      obtain ⟨rfl, rfl⟩ := List.append_eq_nil_iff.mp hmore.symm
      rw [standing_append] at hstop
      refine ⟨hstop, ⟨none, [], none, (unwinds_nil _).leftover _⟩, fun error' herror => ?_⟩
      cases herror
      rw [hlength, List.take_left]
      exact hflight

/-- What is left begins no block and no pass, has at most one effect, and at most two sleeps. -/
theorem Leftover.counts {tick : Nat} {first sleep : Option (Moment σ)} {ends : Journal σ}
    (h : Leftover (Begun tick blocks before) tick first ends sleep after) :
    (∀ m ∈ after, (∀ id, m.doing ≠ .event (.active (some id))) ∧ m.doing ≠ .pass) ∧
    after.countP (·.doing.isEffect) ≤ 1 ∧ after.countP (·.doing.isSleep) ≤ 2 := by
  -- each of the three parts is counted by itself
  have hopt (m? : Option (Moment σ)) (f : Moment σ → Bool) : m?.toList.countP f ≤ 1 := by
    cases m? with
    | none => exact Nat.zero_le 1
    | some m => exact List.countP_le_length
  have hends {f : Moment σ → Bool} (hf : ∀ m : Moment σ, m.doing = .event (.active none) → f m = false) :
      ends.countP f = 0 :=
    List.countP_eq_zero.mpr fun m hm => by simp [hf m (h.ends m hm)]
  have hsleep : sleep.toList.countP (·.doing.isEffect) = 0 := by
    refine List.countP_eq_zero.mpr fun m hm => ?_
    rw [h.sleep m (Option.mem_toList.mp hm)]
    exact Bool.false_ne_true
  -- nothing begins, one effect at most, and two sleeps at most
  refine ⟨?_, ?_, ?_⟩
  · intro m hm
    rw [h.split] at hm
    -- the first moment, the ends, and the sleep between two passes
    rcases List.mem_append.mp hm with hm | hm
    · rcases List.mem_append.mp hm with hm | hm
      · obtain ⟨_, _, _, _, _, hown⟩ := h.own m (Option.mem_toList.mp hm)
        constructor
        · intro id hid
          have hsilent := hown.silent
          rw [hid] at hsilent
          exact hsilent
        · intro hpass
          rw [hpass] at hown
          cases hown
      · rw [h.ends m hm]
        exact ⟨fun id hid => (nomatch hid), fun hpass => nomatch hpass⟩
    · rw [h.sleep m (Option.mem_toList.mp hm)]
      exact ⟨fun id hid => (nomatch hid), fun hpass => nomatch hpass⟩
  · have heffect : ends.countP (·.doing.isEffect) = 0 := hends fun m hm => by rw [hm]; rfl
    have hfirst := hopt first (·.doing.isEffect)
    rw [h.split, List.countP_append, List.countP_append]
    omega
  · have hends : ends.countP (·.doing.isSleep) = 0 := hends fun m hm => by rw [hm]; rfl
    have hfirst := hopt first (·.doing.isSleep)
    have hlast := hopt sleep (·.doing.isSleep)
    rw [h.split, List.countP_append, List.countP_append]
    omega

/-- Once its flag is cleared, at any point of a run, nothing begins any more: no block, and no pass that is
counted. There is left at most one effect, that of the block in flight, and at most two sleeps, one of the block
in flight and one before the pass that does not come. If the run ends, then its summary says that it was
cancelled, and if it fails, then at the block in flight. The last event of a failed run ends no block, so that
the block in flight is then looked for before it.

A run whose summary does not say that it was cancelled has had its flag set all the time. -/
theorem unwinds_of_stopped (env : Environment σ) (patience : Nat) (p : Program) (w : World σ) :
    (∀ before after, env.journal patience p w = before ++ after → (standing w before).running = false →
      (∀ m ∈ after, (∀ id, m.doing ≠ .event (.active (some id))) ∧ m.doing ≠ .pass) ∧
      after.countP (·.doing.isEffect) ≤ 1 ∧ after.countP (·.doing.isSleep) ≤ 2 ∧
      (∃ first ends sleep, Leftover (fun doing =>
          ∃ block ∈ reached p, inFlight before = some block.id ∧ Own env.tick block doing)
        env.tick first ends sleep after) ∧
      (∀ summary, (env.execute patience p w).1 = .ok summary →
        summary.cancelled = true ∧ summary.foreverPasses = before.countP (·.doing.isPass)) ∧
      ∀ error, (env.execute patience p w).1 = .error (.failed error) →
        inFlight (before.take ((env.journal patience p w).length - 1)) = some error.block) ∧
    ∀ summary, (env.execute patience p w).1 = .ok summary → summary.cancelled = false →
      w.running = true ∧ ∀ m ∈ env.journal patience p w, m.world.running = true := by
  have hgoes := env.goes_execute patience p w
  generalize env.journal patience p w = j at hgoes
  -- a run that ends has counted the passes of its journal, and looks at the flag at the end
  have hsummary : ∀ summary, (env.execute patience p w).1 = .ok summary →
      summary.foreverPasses = j.countP (·.doing.isPass) ∧
        summary.cancelled = ! (env.execute patience p w).2.running := by
    intro summary hok
    rw [hok] at hgoes
    cases hgoes with
    | ends hprogram => exact hprogram.countP_isPass
  constructor
  · intro before after hj hstop
    obtain ⟨hw', ⟨first, ends, sleep, hleft⟩, hfailed⟩ := hgoes.unwinds hj hstop
    obtain ⟨hbegins, heffects, hsleeps⟩ := hleft.counts
    refine ⟨hbegins, heffects, hsleeps, ⟨first, ends, sleep, hleft.mono fun _ => Begun.inFlight_eq⟩, ?_, hfailed⟩
    intro summary hok
    obtain ⟨hpasses, hcancelled⟩ := hsummary summary hok
    have hnone : after.countP (·.doing.isPass) = 0 := by
      refine List.countP_eq_zero.mpr fun m hm hpass => ?_
      have hnot := (hbegins m hm).2
      cases hdoing : m.doing with
      | pass => exact hnot hdoing
      | event | runner =>
        rw [hdoing] at hpass
        cases hpass
    refine ⟨by rw [hcancelled, hw']; rfl, ?_⟩
    rw [hpasses, hj, List.countP_append, hnone, Nat.add_zero]
  · intro summary hok hcancelled
    have hrunning : (env.execute patience p w).2.running = true := by
      rw [(hsummary summary hok).2] at hcancelled
      simpa using hcancelled
    -- a cleared flag would still be cleared at the end
    have hflag {before after : Journal σ} (hj : j = before ++ after) : (standing w before).running = true := by
      by_contra hstop
      obtain ⟨hw', -⟩ := hgoes.unwinds hj (Bool.eq_false_iff.mpr hstop)
      rw [hrunning] at hw'
      cases hw'
    refine ⟨hflag (List.nil_append j).symm, fun m hm => ?_⟩
    obtain ⟨earlier, later, hj⟩ := List.append_of_mem hm
    have hstanding := hflag (hj.trans (List.append_cons _ _ _))
    rw [standing_append] at hstanding
    exact hstanding

/-- A run that is stopped when its first block begins. -/
theorem unwinds_of_stopped_firstGreeting :
    let p : Program := ⟨[.container "main" none .forever
      [.statement "greet" none (.log (.text "hello")), .statement "horn" none (.alert (.text "tut"))]]⟩
    let env : Environment Unit :=
      { tick := 1, maxPasses := none, notices := fun _ => true
        react := fun event w => ⟨(), w.devices, event == .active (some "greet")⟩
        foreign? := fun _ => none, channel := none }
    let w : World Unit := .start () true .empty
    let j := env.journal 2 p w
    (standing w (j.take 2)).running = false ∧ (env.execute 2 p w).1 = .ok ⟨false, 1, true⟩ ∧
    (∀ m ∈ j.drop 2, (∀ id, m.doing ≠ .event (.active (some id))) ∧ m.doing ≠ .pass) ∧
    (j.drop 2).countP (·.doing.isEffect) ≤ 1 ∧ (j.drop 2).countP (·.doing.isSleep) ≤ 2 ∧
    (j.take 2).countP (·.doing.isPass) = 1 := by
  intro p env w j
  -- the flag is cleared when the first block begins
  have hstop : (standing w (j.take 2)).running = false := rfl
  have hok : (env.execute 2 p w).1 = .ok ⟨false, 1, true⟩ := rfl
  obtain ⟨hbegins, heffects, hsleeps, -, hsummary, -⟩ :=
    (unwinds_of_stopped env 2 p w).1 (j.take 2) (j.drop 2) (List.take_append_drop 2 j).symm hstop
  exact ⟨hstop, hok, hbegins, heffects, hsleeps, (hsummary _ hok).2.symm⟩

end Run

end Signalbox
