import Signalbox.Proofs.Run.Going

/-!
# The journal of a run

`Environment.journal` is what a run of a program does, in its order. It is kept by a host that is otherwise the
host of the run, and by a run that is otherwise the run itself: it marks where a pass begins.

`Run.Journaled` says of a computation and its form that keeps a journal that they do the same, and how the
computation goes. It holds of a run when it holds of each of its steps.

Main results:

* `Run.journaled_runBlocks`: a run of a list of blocks goes as `Run.Goes` says, by induction on the blocks.
* `Environment.execute_journaling`: a run that keeps a journal ends as the run itself does.
* `Environment.goes_execute`: how a run of a program goes.
-/

namespace Signalbox

variable {σ α : Type}

/-- Does something and writes it down. -/
def StateM.noting (doing : Doing) (step : StateM (World σ) α) : StateM (World σ × Journal σ) α :=
  fun s => ((step s.1).1, (step s.1).2, s.2 ++ [⟨doing, (step s.1).2⟩])

namespace Environment

/-- The surroundings as the host of a run that keeps a journal. -/
def journaling (env : Environment σ) : Host (StateM (World σ × Journal σ)) where
  tick := env.tick
  maxPasses := env.maxPasses
  isRunning := fun s => (s.1.running, s)
  snapshot := fun s => (s.1.devices, s)
  emit event := StateM.noting (.event event) (env.host.emit event)
  runner? block := (env.runner? block).map (StateM.noting (.runner block))

end Environment

namespace Run

/-! ## The steps of a run -/

/-- Two forms of a computation, one of which keeps a journal, do the same, and `goes` relates the world
before, what is written down, the outcome and the world after. -/
def Journaled (goes : World σ → Journal σ → Except Halt α → World σ → Prop)
    (journaled : StateM (World σ × Journal σ) (Except Halt α)) (x : StateM (World σ) (Except Halt α)) : Prop :=
  ∀ w j, ∃ new, journaled (w, j) = ((x w).1, (x w).2, j ++ new) ∧ goes w new (x w).1 (x w).2

variable {β : Type} {env : Environment σ}

namespace Journaled

variable {goes : World σ → Journal σ → Except Halt α → World σ → Prop}

theorem pure {outcome : Except Halt α} (h : ∀ w, goes w [] outcome w) :
    Journaled goes (Pure.pure outcome) (Pure.pure outcome) :=
  fun w j => ⟨[], by rw [List.append_nil]; rfl, h w⟩

/-- What follows something that is written down. -/
theorem noting_bind {doing : Doing} {step : StateM (World σ) β}
    {journaled : β → StateM (World σ × Journal σ) (Except Halt α)} {next : β → StateM (World σ) (Except Halt α)}
    (h : ∀ b, Journaled
      (fun w new outcome w' => ∀ before, step before = (b, w) → goes before (⟨doing, w⟩ :: new) outcome w')
      (journaled b) (next b)) :
    Journaled goes (StateM.noting doing step >>= journaled) (step >>= next) := by
  intro w j
  obtain ⟨new, hsame, hgoes⟩ := h (step w).1 (step w).2 (j ++ [⟨doing, (step w).2⟩])
  refine ⟨⟨doing, (step w).2⟩ :: new, ?_, hgoes w rfl⟩
  rw [List.append_cons]
  exact hsame

/-- What follows a part of a run, whatever its outcome. -/
theorem outcome_bind {first : World σ → Journal σ → Except Halt β → World σ → Prop}
    {x' : StateM (World σ × Journal σ) (Except Halt β)} {x : StateM (World σ) (Except Halt β)}
    {journaled : Except Halt β → StateM (World σ × Journal σ) (Except Halt α)}
    {next : Except Halt β → StateM (World σ) (Except Halt α)} (hx : Journaled first x' x)
    (h : ∀ answer, Journaled (fun w₁ new' outcome w' => ∀ w new, first w new answer w₁ →
      goes w (new ++ new') outcome w') (journaled answer) (next answer)) :
    Journaled goes (x' >>= journaled) (x >>= next) := by
  intro w j
  obtain ⟨new, hsame, hfirst⟩ := hx w j
  obtain ⟨new', hsame', hgoes⟩ := h (x w).1 (x w).2 (j ++ new)
  refine ⟨new ++ new', ?_, hgoes w new hfirst⟩
  show journaled (x' (w, j)).1 (x' (w, j)).2 = _
  rw [hsame, ← List.append_assoc]
  exact hsame'

/-- What follows a part of a run that may halt it. A halt is handed on. -/
theorem bind {first : World σ → Journal σ → Except Halt β → World σ → Prop}
    {x' : StateM (World σ × Journal σ) (Except Halt β)} {x : StateM (World σ) (Except Halt β)}
    {journaled : Except Halt β → StateM (World σ × Journal σ) (Except Halt α)}
    {next : Except Halt β → StateM (World σ) (Except Halt α)} (hx : Journaled first x' x)
    (hhalt : ∀ halt, journaled (.error halt) = Pure.pure (.error halt) ∧
      next (.error halt) = Pure.pure (.error halt) ∧ ∀ w new w', first w new (.error halt) w' →
        goes w new (.error halt) w')
    (hok : ∀ b, Journaled (fun w₁ new' outcome w' => ∀ w new, first w new (.ok b) w₁ →
      goes w (new ++ new') outcome w') (journaled (.ok b)) (next (.ok b))) :
    Journaled goes (x' >>= journaled) (x >>= next) := by
  refine hx.outcome_bind fun answer => ?_
  -- a halt ends both, and then there is nothing more in the journal
  cases answer with
  | error halt =>
    obtain ⟨hjournaled, hnext, hgoes⟩ := hhalt halt
    rw [hjournaled, hnext]
    refine .pure fun w' w new hfirst => ?_
    rw [List.append_nil]
    exact hgoes w new w' hfirst
  | ok b => exact hok b

/-- What follows a look at the devices. -/
theorem snapshot_bind {journaled : Snapshot → StateM (World σ × Journal σ) (Except Halt α)}
    {next : Snapshot → StateM (World σ) (Except Halt α)}
    (h : ∀ s, Journaled (fun w new outcome w' => w.devices = s → goes w new outcome w') (journaled s) (next s)) :
    Journaled goes (env.journaling.snapshot >>= journaled) (env.host.snapshot >>= next) := by
  intro w j
  obtain ⟨new, hsame, hgoes⟩ := h w.devices w j
  exact ⟨new, hsame, hgoes rfl⟩

/-- What follows a look at the flag. -/
theorem isRunning_bind {journaled : Bool → StateM (World σ × Journal σ) (Except Halt α)}
    {next : Bool → StateM (World σ) (Except Halt α)}
    (h : ∀ b, Journaled (fun w new outcome w' => w.running = b → goes w new outcome w') (journaled b) (next b)) :
    Journaled goes (env.journaling.isRunning >>= journaled) (env.host.isRunning >>= next) := by
  intro w j
  obtain ⟨new, hsame, hgoes⟩ := h w.running w j
  exact ⟨new, hsame, hgoes rfl⟩

/-- What follows an event. -/
theorem emit_bind {event : Event} {journaled : Unit → StateM (World σ × Journal σ) (Except Halt α)}
    {next : Unit → StateM (World σ) (Except Halt α)}
    (h : Journaled (fun w₁ new outcome w' => ∀ w, w₁ = env.emit event w →
      goes w (env.moment event w :: new) outcome w') (journaled ()) (next ())) :
    Journaled goes (env.journaling.emit event >>= journaled) (env.host.emit event >>= next) := by
  refine noting_bind fun _ w₁ j => ?_
  obtain ⟨new, hsame, hgoes⟩ := h w₁ j
  refine ⟨new, hsame, fun w hw => ?_⟩
  obtain rfl : env.emit event w = w₁ := congrArg Prod.snd hw
  exact hgoes w rfl

/-- What is journaled goes any way that is implied. -/
theorem mono {goes goes' : World σ → Journal σ → Except Halt α → World σ → Prop}
    {x' : StateM (World σ × Journal σ) (Except Halt α)} {x : StateM (World σ) (Except Halt α)}
    (h : Journaled goes x' x) (hmono : ∀ w new outcome w', goes w new outcome w' → goes' w new outcome w') :
    Journaled goes' x' x := by
  intro w j
  obtain ⟨new, hsame, hgoes⟩ := h w j
  exact ⟨new, hsame, hmono _ _ _ _ hgoes⟩

end Journaled

/-- A body that is journaled is journaled however often it is repeated. -/
theorem journaled_times {blocks : List Block} {body' : StateM (World σ × Journal σ) (Except Halt Unit)}
    {body : StateM (World σ) (Except Halt Unit)} (h : Journaled (Goes env (.blocks blocks)) body' body)
    (count : Nat) : Journaled (Goes env (.times count blocks)) (times body' count) (times body count) := by
  induction count with
  | zero => exact .pure fun w => .zero blocks w
  | succ count ih =>
    rw [times, times]
    refine h.bind (fun halt => ⟨rfl, rfl, fun _ _ _ hblocks => .timesHalted hblocks⟩) fun _ => ?_
    exact ih.mono fun _ _ _ _ hrest _ _ hblocks => .timesNext hblocks hrest

/-- Waiting for a condition is journaled tick by tick. -/
theorem journaled_poll (id : String) (c : Condition) (patience : Nat) :
    Journaled (Goes env (.poll id c)) (poll env.journaling id c patience) (poll env.host id c patience) := by
  induction patience with
  | zero => exact .pure fun w => .outOfPatience id c w
  | succ patience ih =>
    rw [poll, poll]
    refine .emit_bind (.snapshot_bind fun s => ?_)
    -- what the look at the devices says decides whether the wait fails, ends or goes on
    cases heval : c.evaluate s with
    | error reason =>
      refine .pure fun w hs before hw => ?_
      subst hs hw
      exact .pollFails heval
    | ok holds =>
      cases holds with
      | true =>
        refine .pure fun w hs before hw => ?_
        subst hs hw
        exact .pollEnds heval (.inl rfl)
      | false =>
        refine .isRunning_bind fun running => ?_
        cases running with
        | false =>
          refine .pure fun w hrunning hs before hw => ?_
          subst hs hw
          exact .pollEnds heval (.inr hrunning)
        | true =>
          refine ih.mono fun w new outcome w' hrest hrunning hs before hw => ?_
          subst hs hw
          exact .pollAgain heval hrunning hrest

/-- A runner is one moment of the journal. -/
theorem journaled_runWith {block : Block} {runner : StateM (World σ) (Except String Unit)}
    (hrunner : env.runner? block = some runner) :
    Journaled (Goes env (.block block)) (runWith block.id (StateM.noting (.runner block) runner))
      (runWith block.id runner) := by
  have hcourse (w : World σ) : course env w block = .runner runner := by
    rw [course.eq_def, hrunner]
  refine .noting_bind fun answer => ?_
  cases answer with
  | ok =>
    refine .pure fun w before hw => ?_
    have hgoes := Goes.runner (hcourse before)
    rw [hw] at hgoes
    exact hgoes
  | error message =>
    refine .pure fun w before hw => ?_
    have hgoes := Goes.runner (hcourse before)
    rw [hw] at hgoes
    exact hgoes

/-- A statement is journaled by its course. -/
theorem journaled_runStatement {id : String} {position : Option Position} {kind : StatementKind}
    (hrunner : env.runner? (.statement id position kind) = none) (patience : Nat) :
    Journaled (Goes env (.block (.statement id position kind)))
      (runStatement env.journaling patience id kind) (runStatement env.host patience id kind) := by
  -- an event, and nothing else
  have hevent (event : Event) (hcourse : ∀ w, course env w (.statement id position kind) = .event event) :
      Journaled (Goes env (.block (.statement id position kind)))
        (env.journaling.emit event >>= fun _ => pure (.ok ()))
        (env.host.emit event >>= fun _ => pure (.ok ())) := by
    refine .emit_bind (.pure fun w₁ w hw => ?_)
    subst hw
    exact .event (hcourse w)
  have hfail (error : RunError) (hcourse : ∀ w, course env w (.statement id position kind) = .fail error) :
      Journaled (Goes env (.block (.statement id position kind))) (pure (.error (.failed error)))
        (pure (.error (.failed error))) := .pure fun w => .fail (hcourse w)
  cases kind with
  | sleep value => exact hevent _ fun w => by rw [course, hrunner]
  | log value => exact hevent _ fun w => by rw [course, hrunner]
  | alert value => exact hevent _ fun w => by rw [course, hrunner]
  | wait condition =>
    rw [runStatement, runStatement]
    cases hread : Condition.read condition with
    | error reason => exact hfail _ fun w => by rw [course, hrunner]; simp only [hread]
    | ok c =>
      have hcourse (w : World σ) : course env w (.statement id position (.wait condition)) = .poll c := by
        rw [course, hrunner]
        simp only [hread]
      exact (journaled_poll id c patience).mono fun w _ _ _ hpoll => .poll (hcourse w) hpoll
  | deviceSet device prop value => exact hfail _ fun w => by rw [course, hrunner]

/-- A container is journaled when its children are. -/
theorem journaled_runContainer {id : String} {position : Option Position} {kind : ContainerKind}
    {children : List Block} {run' : StateM (World σ × Journal σ) (Except Halt Unit)}
    {run : StateM (World σ) (Except Halt Unit)}
    (hrunner : env.runner? (.container id position kind children) = none)
    (hchildren : Journaled (Goes env (.blocks children)) run' run) :
    Journaled (Goes env (.block (.container id position kind children)))
      (runContainer env.journaling id kind children.isEmpty run')
      (runContainer env.host id kind children.isEmpty run) := by
  -- a container without a course of its own fails, and writes nothing
  have hfail (error : RunError)
      (hcourse : ∀ w, course env w (.container id position kind children) = .fail error) :
      Journaled (Goes env (.block (.container id position kind children))) (pure (.error (.failed error)))
        (pure (.error (.failed error))) := .pure fun w => .fail (hcourse w)
  cases kind with
  | loop count =>
    have hcourse (w : World σ) : course env w (.container id position (.loop count) children) =
        .children (if children.isEmpty then 0 else count.toNat) := by rw [course, hrunner]
    rw [runContainer, runContainer]
    split_ifs at hcourse ⊢
    · exact .pure fun w => .children (hcourse w) (.zero children w)
    · exact (journaled_times hchildren count.toNat).mono fun w _ _ _ htimes => .children (hcourse w) htimes
  | branch condition =>
    rw [runContainer, runContainer]
    cases hread : Condition.read condition with
    | error reason => exact hfail _ fun w => by rw [course, hrunner]; simp only [hread]
    | ok c =>
      refine .snapshot_bind fun s => ?_
      cases heval : c.evaluate s with
      | error reason =>
        refine .pure fun w hs => .fail ?_
        subst hs
        rw [course, hrunner]
        simp only [hread, heval]
      | ok holds =>
        have hcourse (w : World σ) (hs : w.devices = s) :
            course env w (.container id position (.branch condition) children) = .children holds.toNat := by
          subst hs
          rw [course, hrunner]
          simp only [hread, heval]
        cases holds with
        | true =>
          refine hchildren.mono fun w new outcome w' hblocks hs => ?_
          exact Goes.children (hcourse w hs) hblocks.once
        | false => exact .pure fun w hs => .children (hcourse w hs) (.zero children w)
  | once => exact hfail (.unknownType id .once) fun w => by rw [course, hrunner]
  | forever => exact hfail (.unknownType id .forever) fun w => by rw [course, hrunner]
  | dummy => exact hfail (.unknownType id .dummy) fun w => by rw [course, hrunner]

/-- A block is run by its runner if there is one, and by its own meaning otherwise. -/
theorem journaled_runBlock {patience : Nat} {block : Block}
    (hchildren : Journaled (Goes env (.blocks block.children))
      (runBlocks env.journaling patience block.children) (runBlocks env.host patience block.children)) :
    Journaled (Goes env (.block block)) (runBlock env.journaling patience block)
      (runBlock env.host patience block) := by
  have hjournaling : env.journaling.runner? block = (env.runner? block).map (StateM.noting (.runner block)) :=
    rfl
  have hhost : env.host.runner? block = env.runner? block := rfl
  -- either way a runner goes first, if there is one
  cases block with
  | container id position kind children =>
    rw [runBlock, runBlock, hjournaling, hhost]
    cases hrunner : env.runner? (.container id position kind children) with
    | some runner => exact journaled_runWith hrunner
    | none => exact journaled_runContainer hrunner hchildren
  | statement id position kind =>
    rw [runBlock, runBlock, hjournaling, hhost]
    cases hrunner : env.runner? (.statement id position kind) with
    | some runner => exact journaled_runWith hrunner
    | none => exact journaled_runStatement hrunner patience

/-- A run of a list of blocks goes as its journal says. -/
theorem journaled_runBlocks (env : Environment σ) (patience : Nat) (blocks : List Block) :
    Journaled (Goes env (.blocks blocks)) (runBlocks env.journaling patience blocks)
      (runBlocks env.host patience blocks) := by
  induction blocks using Block.children_induction with
  | nil =>
    rw [runBlocks, runBlocks]
    exact .pure fun w => .nil w
  | cons block rest hchildren hrest =>
    rw [runBlocks, runBlocks]
    refine .isRunning_bind fun running => ?_
    -- a stopped run skips the block; otherwise it is run and then the rest
    cases running with
    | false => exact .pure fun w hrunning => .stopped hrunning
    | true =>
      refine .emit_bind ((journaled_runBlock hchildren).bind (fun halt => ⟨rfl, rfl, ?_⟩) fun _ => .emit_bind ?_)
      · intro w₁ new w' hblock w hw hrunning
        subst hw
        exact .halted hrunning hblock
      · refine hrest.mono fun w₃ new' outcome w' hrest w₂ hw₂ w₁ new hblock w hw hrunning => ?_
        subst hw hw₂
        exact .next hrunning hblock hrest

/-! ## Programs -/

section

variable {m : Type → Type} [Monad m]

/-- Runs the once container and then the forever container, with a mark for every pass. -/
def runProgramMarking (host : Host m) (mark : m Unit) (patience : Nat) (p : Program) :
    m (Except Halt RunSummary) := do
  let once := childrenOf p .once
  let forever := childrenOf p .forever
  match ← runBlocks host patience once with
  | .error halt => return .error halt
  | .ok () =>
    let begun ←
      if forever.isEmpty then pure (.ok 0)
      else passes host (do mark; runBlocks host patience forever) patience 0
    match begun with
    | .error halt => return .error halt
    | .ok begun =>
      return .ok { onceRan := ¬ once.isEmpty, foreverPasses := begun, cancelled := ¬ (← host.isRunning) }

/-- Runs a program, with a mark for every pass. -/
def executeMarking (host : Host m) (mark : m Unit) (patience : Nat) (p : Program) :
    m (Except Halt RunSummary) := do
  match ← runProgramMarking host mark patience p with
  | .error (.failed error) =>
    host.emit (.active none)
    return .error (.failed error)
  | outcome => return outcome

end

/-- Writes down that a pass begins. -/
def markPass : StateM (World σ × Journal σ) Unit :=
  StateM.noting .pass (pure ())

/-- The passes are journaled, each with its mark in front. -/
theorem journaled_passes {blocks : List Block} {patience : Nat} (k begun : Nat) :
    Journaled (GoesPasses env blocks begun)
      (passes env.journaling (do markPass; runBlocks env.journaling patience blocks) k begun)
      (passes env.host (runBlocks env.host patience blocks) k begun) := by
  induction k generalizing begun with
  | zero => exact .pure fun w => .outOfPatience begun w
  | succ k ih =>
    rw [passes, passes]
    refine .isRunning_bind fun running => ?_
    cases running with
    | false => exact .pure fun w hrunning => .stopped hrunning
    | true =>
      -- a mark, a run of the blocks, and the next pass unless it was the last one
      have hmarked : Journaled (fun w new outcome w' => ∃ j, new = ⟨.pass, w⟩ :: j ∧
          Goes env (.blocks blocks) w j outcome w')
          (do markPass; runBlocks env.journaling patience blocks) (runBlocks env.host patience blocks) := by
        intro w j
        obtain ⟨new, hsame, hgoes⟩ := journaled_runBlocks env patience blocks w (j ++ [⟨.pass, w⟩])
        refine ⟨⟨.pass, w⟩ :: new, ?_, new, rfl, hgoes⟩
        rw [List.append_cons]
        exact hsame
      refine hmarked.bind (fun halt => ⟨rfl, rfl, ?_⟩) fun _ => ?_
      · rintro w new w' ⟨j, rfl, hblocks⟩ hrunning
        exact .halted hrunning hblocks
      · show Journaled _ (ite (env.maxPasses.any _) _ _) (ite (env.maxPasses.any _) _ _)
        split_ifs with hlimit
        · refine .pure fun w₁ w new hnew hrunning => ?_
          obtain ⟨j, rfl, hblocks⟩ := hnew
          rw [List.append_nil]
          exact .last hrunning hblocks hlimit
        · refine .emit_bind ((ih (begun + 1)).mono fun w₂ new' outcome w' hrest w₁ hw₁ w new hnew hrunning => ?_)
          obtain ⟨j, rfl, hblocks⟩ := hnew
          subst hw₁
          exact .next hrunning hblocks (Bool.eq_false_iff.mpr hlimit) hrest

/-- A program is journaled. -/
theorem journaled_runProgram (env : Environment σ) (patience : Nat) (p : Program) :
    Journaled (GoesProgram env p) (runProgramMarking env.journaling markPass patience p)
      (runProgram env.host patience p) := by
  rw [runProgramMarking, runProgram]
  refine (journaled_runBlocks env patience _).bind
    (fun halt => ⟨rfl, rfl, fun _ _ _ h => .onceHalted h⟩) fun _ => ?_
  -- without a forever container no pass is begun
  show Journaled _ (ite _ (pure (Except.ok 0) >>= _) (passes _ _ _ _ >>= _))
    (ite _ (pure (Except.ok 0) >>= _) (passes _ _ _ _ >>= _))
  have hends {x' : StateM (World σ × Journal σ) (Except Halt Nat)} {x : StateM (World σ) (Except Halt Nat)}
      (hforever : Journaled (GoesPasses env (childrenOf p .forever) 0) x' x) :
      Journaled (fun w₁ new' outcome w' => ∀ w new, Goes env (.blocks (childrenOf p .once)) w new (.ok ()) w₁ →
          GoesProgram env p w (new ++ new') outcome w')
        (x' >>= fun begun => match begun with
          | .error halt => pure (.error halt)
          | .ok begun => env.journaling.isRunning >>= fun running =>
            pure (.ok ⟨¬ (childrenOf p .once).isEmpty, begun, ¬ running⟩))
        (x >>= fun begun => match begun with
          | .error halt => pure (.error halt)
          | .ok begun => env.host.isRunning >>= fun running =>
            pure (.ok ⟨¬ (childrenOf p .once).isEmpty, begun, ¬ running⟩)) := by
    refine hforever.bind (fun halt => ⟨rfl, rfl, ?_⟩) fun begun => .isRunning_bind fun running => .pure ?_
    · exact fun _ _ _ hpasses _ _ hblocks => .foreverHalted hblocks hpasses
    · intro w' hrunning w₁ j' hpasses w j hblocks
      subst hrunning
      rw [List.append_nil]
      exact .ends hblocks hpasses
  split_ifs with hempty
  · exact hends (.pure fun w => .empty (List.isEmpty_iff.mp hempty))
  · exact hends (journaled_passes patience 0)

/-- A run of a program goes as its journal says. -/
theorem journaled_execute (env : Environment σ) (patience : Nat) (p : Program) :
    Journaled (GoesRun env p) (executeMarking env.journaling markPass patience p)
      (execute env.host patience p) := by
  refine (journaled_runProgram env patience p).outcome_bind fun answer => ?_
  -- only a failure has something done about it
  match answer with
  | .ok summary =>
    refine .pure fun w' w new hprogram => ?_
    rw [List.append_nil]
    exact .ends hprogram
  | .error .outOfPatience =>
    refine .pure fun w' w new hprogram => ?_
    rw [List.append_nil]
    exact .outOfPatience hprogram
  | .error (.failed error) =>
    refine .emit_bind (.pure fun w' w₁ hw₁ w new hprogram => ?_)
    subst hw₁
    exact .failed hprogram

end Run

namespace Environment

/-- The journal of a run of a program in a world. -/
def journal (env : Environment σ) (patience : Nat) (p : Program) (w : World σ) : Journal σ :=
  (Run.executeMarking env.journaling Run.markPass patience p (w, [])).2.2

/-- A run that keeps a journal ends as the run itself does, and in the same world. -/
theorem execute_journaling (env : Environment σ) (patience : Nat) (p : Program) (w : World σ) :
    Run.executeMarking env.journaling Run.markPass patience p (w, []) =
      ((env.execute patience p w).1, (env.execute patience p w).2, env.journal patience p w) := by
  obtain ⟨new, hsame, -⟩ := Run.journaled_execute env patience p w []
  rw [journal, hsame]
  rfl

/-- How a run of a program goes. -/
theorem goes_execute (env : Environment σ) (patience : Nat) (p : Program) (w : World σ) :
    Run.GoesRun env p w (env.journal patience p w) (env.execute patience p w).1
      (env.execute patience p w).2 := by
  obtain ⟨new, hsame, hgoes⟩ := Run.journaled_execute env patience p w []
  have hjournal : env.journal patience p w = new := by
    rw [journal, hsame, List.nil_append]
  rw [hjournal]
  exact hgoes

end Environment

end Signalbox
