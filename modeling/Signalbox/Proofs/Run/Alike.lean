import Signalbox.Proofs.Run.Journal

/-!
# Runs in surroundings that are alike

All that a run knows of its surroundings are the answers of its host. Two hosts that give the same answers, and keep a
relation between their states while they do, therefore see the run do the same. This serves for hosts that keep
something more than another one, and for the invariants of a host: the relation may speak of both states at once.

Main result:

* `Run.alike_executeMarking`: a run is alike in surroundings that are alike.
-/

namespace Signalbox

variable {ρ τ α β : Type}

/-- Two computations give the same answer, and they keep a relation between their states. -/
def StateM.Alike (R : ρ → τ → Prop) (x' : StateM ρ α) (x : StateM τ α) : Prop :=
  ∀ s' s, R s' s → (x' s').1 = (x s).1 ∧ R (x' s').2 (x s).2

/-- Two hosts give the same answers, and they keep a relation between their states. -/
structure Host.Alike (R : ρ → τ → Prop) (host' : Host (StateM ρ)) (host : Host (StateM τ)) : Prop where
  tick : host'.tick = host.tick
  maxPasses : host'.maxPasses = host.maxPasses
  isRunning : StateM.Alike R host'.isRunning host.isRunning
  snapshot : StateM.Alike R host'.snapshot host.snapshot
  emit : ∀ event, StateM.Alike R (host'.emit event) (host.emit event)
  runner? : ∀ block, Option.Rel (StateM.Alike R) (host'.runner? block) (host.runner? block)

namespace StateM.Alike

variable {R : ρ → τ → Prop}

theorem pure (a : α) : Alike R (Pure.pure a) (Pure.pure a) :=
  fun _ _ h => ⟨rfl, h⟩

theorem bind {x' : StateM ρ α} {x : StateM τ α} {next' : α → StateM ρ β} {next : α → StateM τ β}
    (hx : Alike R x' x) (hnext : ∀ a, Alike R (next' a) (next a)) : Alike R (x' >>= next') (x >>= next) := by
  intro s' s h
  obtain ⟨hanswer, hstate⟩ := hx s' s h
  show (next' (x' s').1 (x' s').2).1 = (next (x s).1 (x s).2).1 ∧
    R (next' (x' s').1 (x' s').2).2 (next (x s).1 (x s).2).2
  rw [hanswer]
  exact hnext (x s).1 (x' s').2 (x s).2 hstate

end StateM.Alike

namespace Run

open StateM (Alike)

variable {R : ρ → τ → Prop} {host' : Host (StateM ρ)} {host : Host (StateM τ)}

/-! ## The parts of a run -/

/-- A body that goes alike is repeated alike. -/
theorem alike_times {body' : StateM ρ (Except Halt Unit)} {body : StateM τ (Except Halt Unit)}
    (h : Alike R body' body) (count : Nat) : Alike R (times body' count) (times body count) := by
  induction count with
  | zero => exact .pure _
  | succ count ih =>
    rw [times, times]
    refine h.bind fun answer => ?_
    cases answer with
    | error halt => exact .pure _
    | ok => exact ih

/-- Waiting for a condition goes alike under hosts that do. -/
theorem alike_poll (h : host'.Alike R host) (id : String) (c : Condition) (patience : Nat) :
    Alike R (poll host' id c patience) (poll host id c patience) := by
  induction patience with
  | zero => exact .pure _
  | succ patience ih =>
    rw [poll, poll, h.tick]
    refine (h.emit _).bind fun _ => h.snapshot.bind fun s => ?_
    -- both see the same devices and the same flag, so both end or go on
    cases c.evaluate s with
    | error reason => exact .pure _
    | ok holds =>
      cases holds with
      | true => exact .pure _
      | false =>
        refine h.isRunning.bind fun running => ?_
        cases running with
        | true => exact ih
        | false => exact .pure _

/-- A runner that goes alike runs its block alike. -/
theorem alike_runWith (id : String) {runner' : StateM ρ (Except String Unit)} {runner : StateM τ (Except String Unit)}
    (h : Alike R runner' runner) : Alike R (runWith id runner') (runWith id runner) := by
  refine h.bind fun answer => ?_
  cases answer <;> exact .pure _

/-- A statement is run alike under hosts that go alike. -/
theorem alike_runStatement (h : host'.Alike R host) (patience : Nat) (id : String) (kind : StatementKind) :
    Alike R (runStatement host' patience id kind) (runStatement host patience id kind) := by
  cases kind with
  | sleep | log | alert => exact (h.emit _).bind fun _ => .pure _
  | wait condition =>
    rw [runStatement, runStatement]
    cases Condition.read condition with
    | error reason => exact .pure _
    | ok c => exact alike_poll h id c patience
  | deviceSet => exact .pure _

/-- A container is run alike when its children are. -/
theorem alike_runContainer (h : host'.Alike R host) (id : String) (kind : ContainerKind) (isEmpty : Bool)
    {children' : StateM ρ (Except Halt Unit)} {children : StateM τ (Except Halt Unit)}
    (hchildren : Alike R children' children) :
    Alike R (runContainer host' id kind isEmpty children') (runContainer host id kind isEmpty children) := by
  cases kind with
  | loop count =>
    rw [runContainer, runContainer]
    cases isEmpty with
    | true => exact .pure _
    | false => exact alike_times hchildren count.toNat
  | branch condition =>
    rw [runContainer, runContainer]
    cases Condition.read condition with
    | error reason => exact .pure _
    | ok c =>
      -- both see the same devices, so both decide alike
      refine h.snapshot.bind fun s => ?_
      cases c.evaluate s with
      | error reason => exact .pure _
      | ok holds =>
        cases holds with
        | true => exact hchildren
        | false => exact .pure _
  | once | forever | dummy => exact .pure _

/-- A block is run alike when its children are. -/
theorem alike_runBlock (h : host'.Alike R host) {patience : Nat} {block : Block}
    (hchildren : Alike R (runBlocks host' patience block.children) (runBlocks host patience block.children)) :
    Alike R (runBlock host' patience block) (runBlock host patience block) := by
  have hrunner := h.runner? block
  cases block with
  | container id position kind children =>
    rw [runBlock, runBlock]
    generalize host'.runner? _ = runner', host.runner? _ = runner at hrunner ⊢
    cases hrunner with
    | some hrunner => exact alike_runWith id hrunner
    | none => exact alike_runContainer h id kind _ hchildren
  | statement id position kind =>
    rw [runBlock, runBlock]
    generalize host'.runner? _ = runner', host.runner? _ = runner at hrunner ⊢
    cases hrunner with
    | some hrunner => exact alike_runWith id hrunner
    | none => exact alike_runStatement h patience id kind

/-- Blocks are run alike under hosts that go alike. -/
theorem alike_runBlocks (h : host'.Alike R host) (patience : Nat) (blocks : List Block) :
    Alike R (runBlocks host' patience blocks) (runBlocks host patience blocks) := by
  induction blocks using Block.children_induction with
  | nil => exact .pure _
  | cons block rest hchildren hrest =>
    rw [runBlocks, runBlocks]
    refine h.isRunning.bind fun running => ?_
    cases running with
    | false => exact .pure _
    | true =>
      refine (h.emit _).bind fun _ => (alike_runBlock h hchildren).bind fun answer => ?_
      cases answer with
      | error halt => exact .pure _
      | ok => exact (h.emit _).bind fun _ => hrest

/-! ## Programs -/

/-- The passes of the main containers go alike when each one does. -/
theorem alike_passes (h : host'.Alike R host) {body' : StateM ρ (Except Halt Unit)}
    {body : StateM τ (Except Halt Unit)} (hbody : Alike R body' body) (patience begun : Nat) :
    Alike R (passes host' body' patience begun) (passes host body patience begun) := by
  induction patience generalizing begun with
  | zero => exact .pure _
  | succ patience ih =>
    rw [passes, passes, h.tick, h.maxPasses]
    refine h.isRunning.bind fun running => ?_
    cases running with
    | false => exact .pure _
    | true =>
      refine hbody.bind fun answer => ?_
      cases answer with
      | error halt => exact .pure _
      | ok =>
        -- both have made as many passes, so both stop here or neither does
        show Alike R (ite (host.maxPasses.any _) _ _) (ite (host.maxPasses.any _) _ _)
        split_ifs
        · exact .pure _
        · exact (h.emit _).bind fun _ => ih (begun + 1)

/-- The passes, where there is anything to repeat, and what follows them. -/
theorem alike_passes_bind (h : host'.Alike R host) {mark' : StateM ρ Unit} {mark : StateM τ Unit}
    (hmark : Alike R mark' mark) {next' : Except Halt Nat → StateM ρ α} {next : Except Halt Nat → StateM τ α}
    (hnext : ∀ begun, Alike R (next' begun) (next begun)) (patience : Nat) (blocks : List Block) : Alike R
      (if blocks.isEmpty then Pure.pure (.ok 0) >>= next'
        else passes host' (mark' >>= fun _ => runBlocks host' patience blocks) patience 0 >>= next')
      (if blocks.isEmpty then Pure.pure (.ok 0) >>= next
        else passes host (mark >>= fun _ => runBlocks host patience blocks) patience 0 >>= next) := by
  split_ifs
  · exact (Alike.pure _).bind hnext
  · exact (alike_passes h (hmark.bind fun _ => alike_runBlocks h patience _) patience 0).bind hnext

/-- A program is run alike, when its passes are marked alike. -/
theorem alike_runProgramMarking (h : host'.Alike R host) {mark' : StateM ρ Unit} {mark : StateM τ Unit}
    (hmark : Alike R mark' mark) (patience : Nat) (p : Program) :
    Alike R (runProgramMarking host' mark' patience p) (runProgramMarking host mark patience p) := by
  rw [runProgramMarking, runProgramMarking]
  refine (alike_runBlocks h patience _).bind fun answer => ?_
  cases answer with
  | error halt => exact .pure _
  | ok =>
    refine alike_passes_bind h hmark (fun begun => ?_) patience _
    cases begun with
    | error halt => exact .pure _
    | ok begun => exact h.isRunning.bind fun _ => .pure _

/-- A run is alike in surroundings that are alike. -/
theorem alike_executeMarking (h : host'.Alike R host) {mark' : StateM ρ Unit} {mark : StateM τ Unit}
    (hmark : Alike R mark' mark) (patience : Nat) (p : Program) :
    Alike R (executeMarking host' mark' patience p) (executeMarking host mark patience p) := by
  refine (alike_runProgramMarking h hmark patience p).bind fun answer => ?_
  match answer with
  | .ok summary => exact .pure _
  | .error .outOfPatience => exact .pure _
  | .error (.failed error) => exact (h.emit _).bind fun _ => .pure _

end Run

end Signalbox
