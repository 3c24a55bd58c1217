import Signalbox.Proofs.Block.Preorder
import Signalbox.Proofs.Run.Recording

/-!
# Why runs fail

A run fails at one block, and for one of four reasons: the condition of the block cannot be read, the
snapshot it is checked against does not know its device, the runner of the surroundings fails, or there is no
runner for a block that has no meaning of its own. This holds of every program and of any surroundings.

Main results:

* `Run.recorded_runBlocks`: a run of a list of blocks, by induction on the blocks.
* `Run.cause_of_execute`: a failed run of a program has a cause.
-/

namespace Signalbox

variable {σ : Type}

namespace Run

/-- Why a block fails a run that has read these snapshots, the latest first. -/
inductive Cause (host : Host (StateM σ)) (block : Block) : RunError → List Snapshot → Prop where
  | unreadable {text : String} {reason : ConditionError} (reads : List Snapshot)
    (htext : block.condition? = some text) (hread : Condition.read text = .error reason) :
    Cause host block (.condition block.id reason) reads
  | unknownDevice {text : String} {c : Condition} {s : Snapshot} (reads : List Snapshot)
    (htext : block.condition? = some text) (hread : Condition.read text = .ok c)
    (hdevice : s.get? c.device = none) :
    Cause host block (.condition block.id (.unknownDevice c.device)) (s :: reads)
  | runner {runner : StateM σ (Except String Unit)} {message : String} {w : σ} (reads : List Snapshot)
    (hrunner : host.runner? block = some runner) (hfails : (runner w).1 = .error message) :
    Cause host block (.runner block.id message) reads
  | unknownType (reads : List Snapshot) (hrunner : host.runner? block = none)
    (htype : block.type ∈ [.once, .forever, .deviceSet, .dummy]) :
    Cause host block (.unknownType block.id block.type) reads

/-- One of the blocks fails the run. -/
def FailsIn (host : Host (StateM σ)) (blocks : List Block) (error : RunError) (reads : List Snapshot) : Prop :=
  ∃ block ∈ blocks, Cause host block error reads

variable {host : Host (StateM σ)} {block : Block} {blocks : List Block} {error : RunError}

/-- What was read before does not matter. -/
theorem Cause.append {new : List Snapshot} (h : Cause host block error new) (old : List Snapshot) :
    Cause host block error (new ++ old) := by
  cases h with
  | unreadable reads htext hread => exact .unreadable _ htext hread
  | unknownDevice reads htext hread hdevice => exact .unknownDevice (reads ++ old) htext hread hdevice
  | runner reads hrunner hfails => exact .runner _ hrunner hfails
  | unknownType reads hrunner htype => exact .unknownType _ hrunner htype

/-- What was read before does not matter to a failure. -/
theorem FailsIn.append {new : List Snapshot} (h : FailsIn host blocks error new) (old : List Snapshot) :
    FailsIn host blocks error (new ++ old) := by
  obtain ⟨block, hblock, hcause⟩ := h
  exact ⟨block, hblock, hcause.append old⟩

/-- A failure among some blocks is one among more blocks. -/
theorem FailsIn.mono {blocks' : List Block} {reads : List Snapshot} (h : FailsIn host blocks error reads)
    (hsub : blocks ⊆ blocks') : FailsIn host blocks' error reads := by
  obtain ⟨block, hblock, hcause⟩ := h
  exact ⟨block, hsub hblock, hcause⟩

/-! ## The parts of a run -/

section

variable {goesWith : RunError → List Snapshot → Prop}
  (hmore : ∀ error new old, goesWith error new → goesWith error (new ++ old))

include hmore

/-- A body that is recorded is recorded however often it is repeated. -/
theorem recorded_times {body' : StateM (σ × List Snapshot) (Except Halt Unit)}
    {body : StateM σ (Except Halt Unit)} (h : Recorded goesWith body' body) (n : Nat) :
    Recorded goesWith (times body' n) (times body n) := by
  induction n with
  | zero => exact Recorded.ok ()
  | succ n ih =>
    rw [times, times]
    exact Recorded.bind hmore h (fun _ _ _ => ⟨rfl, rfl⟩) fun _ => ih

/-- Passes are recorded when each one is. -/
theorem recorded_passes {body' : StateM (σ × List Snapshot) (Except Halt Unit)}
    {body : StateM σ (Except Halt Unit)} (h : Recorded goesWith body' body) (patience begun : Nat) :
    Recorded goesWith (passes host.recording body' patience begun) (passes host body patience begun) := by
  induction patience generalizing begun with
  | zero => exact Recorded.outOfPatience
  | succ patience ih =>
    rw [passes, passes]
    refine Recorded.lift_bind fun running _ => ?_
    cases running with
    | false => exact Recorded.ok begun
    | true =>
      -- a pass, and the next one unless the passes are used up
      refine Recorded.bind hmore h (fun _ _ _ => ⟨rfl, rfl⟩) fun _ => ?_
      show Recorded goesWith (ite (host.maxPasses.any _) _ _) (ite (host.maxPasses.any _) _ _)
      split_ifs
      · exact Recorded.ok (begun + 1)
      · exact Recorded.lift_bind fun _ _ => ih (begun + 1)

end

/-- A condition is checked against a snapshot. It has an outcome unless the snapshot does not know the
device. -/
theorem recorded_check {text : String} {c : Condition} (hblock : block ∈ blocks)
    (htext : block.condition? = some text) (hread : Condition.read text = .ok c)
    {recorded : Snapshot → StateM (σ × List Snapshot) (Except Halt Unit)}
    {next : Snapshot → StateM σ (Except Halt Unit)}
    (hfail : ∀ s, c.evaluate s = .error (.unknownDevice c.device) →
      recorded s = pure (.error (.failed (.condition block.id (.unknownDevice c.device)))) ∧
        next s = pure (.error (.failed (.condition block.id (.unknownDevice c.device)))))
    (hok : ∀ s holds, c.evaluate s = .ok holds → Recorded (FailsIn host blocks) (recorded s) (next s)) :
    Recorded (FailsIn host blocks) (host.recording.snapshot >>= recorded) (host.snapshot >>= next) := by
  refine Recorded.snapshot_bind fun s => ?_
  cases hdevice : s.get? c.device with
  | none =>
    obtain ⟨hrecorded, hnext⟩ := hfail s (by rw [Condition.evaluate, hdevice])
    rw [hrecorded, hnext]
    exact Recorded.failed ⟨block, hblock, .unknownDevice [] htext hread hdevice⟩
  | some device =>
    -- the snapshot is the first that this check reads
    refine (hok s _ (by rw [Condition.evaluate, hdevice])).mono fun error new herror => ?_
    exact herror.append [s]

/-- Waiting for a condition fails only for a device that the last snapshot does not know. -/
theorem recorded_poll {text : String} {c : Condition} (hblock : block ∈ blocks)
    (htext : block.condition? = some text) (hread : Condition.read text = .ok c) (patience : Nat) :
    Recorded (FailsIn host blocks) (poll host.recording block.id c patience)
      (poll host block.id c patience) := by
  induction patience with
  | zero => exact Recorded.outOfPatience
  | succ patience ih =>
    rw [poll, poll]
    refine Recorded.lift_bind fun _ _ => ?_
    -- one look at the devices, then the next poll while the condition does not hold
    refine recorded_check hblock htext hread (fun s hnone => ?_) fun s holds hsome => ?_
    · rw [hnone]
      exact ⟨rfl, rfl⟩
    · rw [hsome]
      cases holds with
      | true => exact Recorded.ok ()
      | false =>
        refine Recorded.lift_bind fun running _ => ?_
        cases running with
        | true => exact ih
        | false => exact Recorded.ok ()

/-! ## Blocks -/

/-- A runner fails only by its own answer. -/
theorem recorded_runWith {runner : StateM σ (Except String Unit)} (hblock : block ∈ blocks)
    (hrunner : host.runner? block = some runner) :
    Recorded (FailsIn host blocks) (runWith block.id (StateM.besideReads runner))
      (runWith block.id runner) := by
  refine Recorded.lift_bind fun answer hanswer => ?_
  obtain ⟨w, hw⟩ := hanswer
  cases answer with
  | ok => exact Recorded.ok ()
  | error message => exact Recorded.failed ⟨block, hblock, .runner [] hrunner hw⟩

/-- A statement fails as its block may fail. -/
theorem recorded_runStatement {id : String} {position : Option Position} {kind : StatementKind}
    (hblock : .statement id position kind ∈ blocks)
    (hrunner : host.runner? (.statement id position kind) = none) (patience : Nat) :
    Recorded (FailsIn host blocks) (runStatement host.recording patience id kind)
      (runStatement host patience id kind) := by
  cases kind with
  | sleep value => exact Recorded.lift_bind fun _ _ => Recorded.ok ()
  | log value => exact Recorded.lift_bind fun _ _ => Recorded.ok ()
  | alert value => exact Recorded.lift_bind fun _ _ => Recorded.ok ()
  | wait condition =>
    rw [runStatement, runStatement]
    cases hread : Condition.read condition with
    | error reason => exact Recorded.failed ⟨_, hblock, .unreadable [] rfl hread⟩
    | ok c => exact recorded_poll hblock rfl hread patience
  | deviceSet device prop value =>
    exact Recorded.failed ⟨_, hblock, .unknownType [] hrunner (by simp [Block.type, StatementKind.type])⟩

/-- A container fails as it or one of its children may fail. -/
theorem recorded_runContainer {id : String} {position : Option Position} {kind : ContainerKind}
    {children : List Block} {run' : StateM (σ × List Snapshot) (Except Halt Unit)}
    {run : StateM σ (Except Halt Unit)} (hblock : .container id position kind children ∈ blocks)
    (hrunner : host.runner? (.container id position kind children) = none)
    (hchildren : Recorded (FailsIn host blocks) run' run) :
    Recorded (FailsIn host blocks) (runContainer host.recording id kind children.isEmpty run')
      (runContainer host id kind children.isEmpty run) := by
  -- the three containers that have no meaning inside another block
  have hunknown (h : kind.type ∈ [.once, .forever, .deviceSet, .dummy]) :
      FailsIn host blocks (.unknownType id kind.type) [] := ⟨_, hblock, .unknownType [] hrunner h⟩
  cases kind with
  | loop count =>
    rw [runContainer, runContainer]
    split_ifs
    · exact Recorded.ok ()
    · exact recorded_times (fun _ _ old h => h.append old) hchildren count.toNat
  | branch condition =>
    rw [runContainer, runContainer]
    cases hread : Condition.read condition with
    | error reason => exact Recorded.failed ⟨_, hblock, .unreadable [] rfl hread⟩
    | ok c =>
      refine recorded_check hblock rfl hread (fun s hnone => ?_) fun s holds hsome => ?_
      · rw [hnone]
        exact ⟨rfl, rfl⟩
      · rw [hsome]
        cases holds with
        | true => exact hchildren
        | false => exact Recorded.ok ()
  | once => exact Recorded.failed (hunknown (by simp [ContainerKind.type]))
  | forever => exact Recorded.failed (hunknown (by simp [ContainerKind.type]))
  | dummy => exact Recorded.failed (hunknown (by simp [ContainerKind.type]))

/-- A block is run by its runner if there is one, and by its own meaning otherwise. -/
theorem recorded_runBlock {patience : Nat} (hblock : block ∈ blocks)
    (hchildren : Recorded (FailsIn host blocks) (runBlocks host.recording patience block.children)
      (runBlocks host patience block.children)) :
    Recorded (FailsIn host blocks) (runBlock host.recording patience block)
      (runBlock host patience block) := by
  have hrecording : host.recording.runner? block = (host.runner? block).map StateM.besideReads := rfl
  -- either way a runner goes first, if there is one
  cases block with
  | container id position kind children =>
    rw [runBlock, runBlock, hrecording]
    cases hrunner : host.runner? (.container id position kind children) with
    | some runner => exact recorded_runWith hblock hrunner
    | none => exact recorded_runContainer hblock hrunner hchildren
  | statement id position kind =>
    rw [runBlock, runBlock, hrecording]
    cases hrunner : host.runner? (.statement id position kind) with
    | some runner => exact recorded_runWith hblock hrunner
    | none => exact recorded_runStatement hblock hrunner patience

/-- One of the blocks that a list of blocks is made of fails its run. -/
theorem recorded_runBlocks (host : Host (StateM σ)) (patience : Nat) (blocks : List Block) :
    Recorded (FailsIn host (Block.preorderIn blocks)) (runBlocks host.recording patience blocks)
      (runBlocks host patience blocks) := by
  induction blocks using Block.children_induction with
  | nil =>
    rw [runBlocks, runBlocks]
    exact Recorded.ok ()
  | cons block rest hchildren hrest =>
    have hmem : block ∈ block :: rest := List.mem_cons_self
    have hmore : ∀ error new old, FailsIn host (Block.preorderIn (block :: rest)) error new →
        FailsIn host (Block.preorderIn (block :: rest)) error (new ++ old) := fun _ _ old h => h.append old
    rw [runBlocks, runBlocks]
    refine Recorded.lift_bind fun running _ => ?_
    cases running with
    | false => exact Recorded.ok ()
    | true =>
      refine Recorded.lift_bind fun _ _ => ?_
      -- the first block with what is inside it, then the rest
      refine Recorded.bind hmore ?_ (fun _ _ _ => ⟨rfl, rfl⟩) fun _ => Recorded.lift_bind fun _ _ => ?_
      · refine recorded_runBlock (Block.mem_preorderIn hmem) (hchildren.mono fun error new h => ?_)
        exact h.mono (Block.preorderIn_children_subset hmem)
      · exact hrest.mono fun error new h => h.mono (List.subset_append_right _ _)

/-! ## Programs -/

/-- The blocks below the containers of a type are in the program. -/
theorem childrenOf_subset (p : Program) (type : BlockType) :
    Block.preorderIn (childrenOf p type) ⊆ p.preorder := by
  unfold childrenOf
  split
  next block hfirst => exact Block.preorderIn_children_subset (List.mem_of_find?_eq_some hfirst)
  next => exact List.nil_subset _

/-- The blocks that a run of a program comes to: those inside its once and its forever container. -/
def reached (p : Program) : List Block :=
  Block.preorderIn (childrenOf p .once) ++ Block.preorderIn (childrenOf p .forever)

/-- A program fails as one of the blocks it reaches may fail. -/
theorem recorded_runProgram (host : Host (StateM σ)) (patience : Nat) (p : Program) :
    Recorded (FailsIn host (reached p)) (runProgram host.recording patience p) (runProgram host patience p) := by
  have hmore : ∀ error new old, FailsIn host (reached p) error new →
      FailsIn host (reached p) error (new ++ old) := fun _ _ old h => h.append old
  have honce : Recorded (FailsIn host (reached p))
      (runBlocks host.recording patience (childrenOf p .once)) (runBlocks host patience (childrenOf p .once)) :=
    (recorded_runBlocks host patience _).mono fun _ _ h => h.mono (List.subset_append_left _ _)
  have hforever : Recorded (FailsIn host (reached p))
      (runBlocks host.recording patience (childrenOf p .forever))
      (runBlocks host patience (childrenOf p .forever)) :=
    (recorded_runBlocks host patience _).mono fun _ _ h => h.mono (List.subset_append_right _ _)
  rw [runProgram, runProgram]
  refine Recorded.bind hmore honce (fun _ _ _ => ⟨rfl, rfl⟩) fun _ => ?_
  -- without a forever container no pass is begun
  show Recorded _ (ite _ (pure (Except.ok 0) >>= _) (passes _ _ _ _ >>= _))
    (ite _ (pure (Except.ok 0) >>= _) (passes _ _ _ _ >>= _))
  split_ifs
  · exact Recorded.bind hmore (Recorded.ok 0) (fun _ _ _ => ⟨rfl, rfl⟩) fun _ =>
      Recorded.lift_bind fun _ _ => Recorded.ok _
  · exact Recorded.bind hmore (recorded_passes hmore hforever patience 0) (fun _ _ _ => ⟨rfl, rfl⟩) fun _ =>
      Recorded.lift_bind fun _ _ => Recorded.ok _

/-- A run of a program fails at one of the blocks that it comes to. -/
theorem recorded_execute (host : Host (StateM σ)) (patience : Nat) (p : Program) :
    Recorded (FailsIn host (reached p)) (execute host.recording patience p) (execute host patience p) := by
  refine Recorded.bind (fun _ _ old h => h.append old) (recorded_runProgram host patience p) ?_ Recorded.ok
  intro halt w reads
  cases halt <;> exact ⟨rfl, rfl⟩

/-- A failed run has a cause in one of the blocks that it comes to. -/
theorem cause_of_execute {patience : Nat} {p : Program} {w : σ}
    (h : (execute host patience p w).1 = .error (.failed error)) :
    ∃ block ∈ reached p, Cause host block error (reads host patience p w) := by
  obtain ⟨new, hsame, herror⟩ := recorded_execute host patience p w []
  have hreads : reads host patience p w = new := by
    rw [reads, hsame]
    exact List.append_nil new
  rw [hreads]
  exact herror error h

/-- A recorded run ends as the run itself does. -/
theorem execute_recording (host : Host (StateM σ)) (patience : Nat) (p : Program) (w : σ) :
    (execute host.recording patience p (w, [])).1 = (execute host patience p w).1 ∧
      (execute host.recording patience p (w, [])).2.1 = (execute host patience p w).2 := by
  obtain ⟨new, hsame, -⟩ := recorded_execute host patience p w []
  rw [hsame]
  exact ⟨rfl, rfl⟩

end Run

end Signalbox
