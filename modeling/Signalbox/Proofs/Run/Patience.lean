import Signalbox.Proofs.Block.Node
import Signalbox.Run.World

/-!
# Patience

The patience of a run stands for the time that it is watched, and it should not matter otherwise. A run that has
ended within some patience ends in the same way within any greater one. A run that is out of patience has slept at
least as often as it had patience, since every round of a wait and every pass of a forever container sleeps once.

`Run.Extends` and `Run.Patient` say these two things of a computation. They hold of a run when they hold of each of
its steps.

Main results:

* `Environment.execute_of_le`: more patience changes nothing about a run that has ended.
* `Environment.sleeps_of_outOfPatience`: how often a run that is out of patience has slept.
-/

namespace Signalbox

variable {σ α β : Type}

def Event.isSleep : Event → Bool
  | .sleep _ => true
  | _ => false

/-- How often a run has slept. -/
def World.sleeps (w : World σ) : Nat :=
  w.past.countP Event.isSleep

theorem World.countP_isSleep_events (w : World σ) : w.events.countP Event.isSleep = w.sleeps := by
  rw [events, sleeps, List.countP_reverse]

namespace Run

/-! ## More patience -/

/-- The first computation does the same as the second one, unless the second is out of patience. -/
def Extends (y x : StateM σ (Except Halt α)) : Prop :=
  ∀ w, (x w).1 ≠ .error .outOfPatience → y w = x w

namespace Extends

theorem refl (x : StateM σ (Except Halt α)) : Extends x x :=
  fun _ _ => rfl

/-- What follows a step that is the same in both. -/
theorem lift_bind (step : StateM σ β) {next next' : β → StateM σ (Except Halt α)}
    (h : ∀ b, Extends (next' b) (next b)) : Extends (step >>= next') (step >>= next) :=
  fun w => h (step w).1 (step w).2

/-- What follows a part of a run that may be out of patience, which is handed on. -/
theorem bind {x y : StateM σ (Except Halt β)} {next next' : Except Halt β → StateM σ (Except Halt α)}
    (hx : Extends y x) (hhalt : next (.error .outOfPatience) = pure (.error .outOfPatience))
    (h : ∀ answer, Extends (next' answer) (next answer)) : Extends (y >>= next') (x >>= next) := by
  intro w hw
  -- otherwise the whole would be out of patience
  have hfirst : (x w).1 ≠ .error .outOfPatience := by
    intro hout
    refine hw ?_
    show (next (x w).1 (x w).2).1 = _
    rw [hout, hhalt]
    rfl
  show next' (y w).1 (y w).2 = next (x w).1 (x w).2
  rw [hx w hfirst]
  exact h (x w).1 (x w).2 hw

end Extends

variable {host : Host (StateM σ)} {patience patience' : Nat}

/-- Rounds do the same when one round does. -/
theorem extends_times {body body' : StateM σ (Except Halt Unit)} (h : Extends body' body) (count : Nat) :
    Extends (times body' count) (times body count) := by
  induction count with
  | zero => exact .refl _
  | succ count ih =>
    rw [times, times]
    refine h.bind rfl fun answer => ?_
    cases answer with
    | error halt => exact .refl _
    | ok => exact ih

/-- A wait with more patience goes on like one with less. -/
theorem extends_poll (host : Host (StateM σ)) (id : String) (c : Condition) (h : patience ≤ patience') :
    Extends (poll host id c patience') (poll host id c patience) := by
  induction patience generalizing patience' with
  | zero => exact fun _ hout => absurd rfl hout
  | succ patience ih =>
    obtain ⟨patience', rfl⟩ := Nat.exists_eq_add_of_lt h
    rw [poll, poll]
    refine .lift_bind _ fun _ => .lift_bind _ fun s => ?_
    -- both see the same devices, and only a condition that fails to hold needs another round
    match c.evaluate s with
    | .error _ => exact .refl _
    | .ok true => exact .refl _
    | .ok false =>
      refine .lift_bind _ fun running => ?_
      cases running with
      | false => exact .refl _
      | true => exact ih (by omega)

/-- A block without children uses its patience up in a wait only. -/
theorem extends_runStatement (id : String) (kind : StatementKind) (h : patience ≤ patience') :
    Extends (runStatement host patience' id kind) (runStatement host patience id kind) := by
  cases kind with
  | wait condition =>
    rw [runStatement, runStatement]
    match Condition.read condition with
    | .error _ => exact .refl _
    | .ok c => exact extends_poll host id c h
  | _ => exact .refl _

/-- A container does the same when its children do. -/
theorem extends_runContainer (id : String) (kind : ContainerKind) (isEmpty : Bool)
    {children children' : StateM σ (Except Halt Unit)} (h : Extends children' children) :
    Extends (runContainer host id kind isEmpty children') (runContainer host id kind isEmpty children) := by
  cases kind with
  | loop count =>
    rw [runContainer, runContainer]
    split_ifs
    · exact .refl _
    · exact extends_times h count.toNat
  | branch condition =>
    rw [runContainer, runContainer]
    match Condition.read condition with
    | .error _ => exact .refl _
    | .ok c =>
      refine .lift_bind _ fun s => ?_
      match c.evaluate s with
      | .error _ => exact .refl _
      | .ok true => exact h
      | .ok false => exact .refl _
  | _ => exact .refl _

/-- A block does the same with more patience when its children do. -/
theorem extends_runBlock {block : Block} (h : patience ≤ patience')
    (hchildren : Extends (runBlocks host patience' block.children) (runBlocks host patience block.children)) :
    Extends (runBlock host patience' block) (runBlock host patience block) := by
  cases block with
  | container id position kind children =>
    rw [runBlock, runBlock]
    cases host.runner? (.container id position kind children) with
    | some runner => exact .refl _
    | none => exact extends_runContainer id kind _ hchildren
  | statement id position kind =>
    rw [runBlock, runBlock]
    cases host.runner? (.statement id position kind) with
    | some runner => exact .refl _
    | none => exact extends_runStatement id kind h

/-- Blocks do the same with more patience. -/
theorem extends_runBlocks (host : Host (StateM σ)) (h : patience ≤ patience') (blocks : List Block) :
    Extends (runBlocks host patience' blocks) (runBlocks host patience blocks) := by
  induction blocks using Block.children_induction with
  | nil =>
    rw [runBlocks, runBlocks]
    exact .refl _
  | cons block rest hchildren hrest =>
    rw [runBlocks, runBlocks]
    refine .lift_bind _ fun running => ?_
    cases running with
    | false => exact .refl _
    | true =>
      -- the block begins, runs and ends, and the others follow
      refine .lift_bind _ fun _ => (extends_runBlock h hchildren).bind rfl fun answer => ?_
      cases answer with
      | error halt => exact .refl _
      | ok => exact .lift_bind _ fun _ => hrest

/-- Passes do the same with more patience when one pass does. -/
theorem extends_passes {body body' : StateM σ (Except Halt Unit)} (hbody : Extends body' body)
    (h : patience ≤ patience') (begun : Nat) :
    Extends (passes host body' patience' begun) (passes host body patience begun) := by
  -- on the smaller patience; the larger one has as much left and more
  induction patience generalizing patience' begun with
  | zero => exact fun _ hout => absurd rfl hout
  | succ patience ih =>
    obtain ⟨patience', rfl⟩ := Nat.exists_eq_add_of_lt h
    rw [passes, passes]
    refine .lift_bind _ fun running => ?_
    cases running with
    | false => exact .refl _
    | true =>
      -- the pass, and then the sleep before the next one unless the limit is reached
      refine hbody.bind rfl fun answer => ?_
      cases answer with
      | error halt => exact .refl _
      | ok =>
        show Extends (ite (host.maxPasses.any _) _ _) (ite (host.maxPasses.any _) _ _)
        split_ifs
        · exact .refl _
        · exact .lift_bind _ fun _ => ih (by omega) (begun + 1)

/-- A program does the same with more patience. -/
theorem extends_runProgram (host : Host (StateM σ)) (h : patience ≤ patience') (p : Program) :
    Extends (runProgram host patience' p) (runProgram host patience p) := by
  rw [runProgram, runProgram]
  refine (extends_runBlocks host h _).bind rfl fun answer => ?_
  cases answer with
  | error halt => exact .refl _
  | ok =>
    show Extends (ite _ (pure (Except.ok 0) >>= _) (passes _ _ _ _ >>= _))
      (ite _ (pure (Except.ok 0) >>= _) (passes _ _ _ _ >>= _))
    split_ifs
    · exact .refl _
    · exact (extends_passes (extends_runBlocks host h _) h 0).bind rfl fun _ => .refl _

/-- So does a run of it, with what follows a failure. -/
theorem extends_execute (host : Host (StateM σ)) (h : patience ≤ patience') (p : Program) :
    Extends (execute host patience' p) (execute host patience p) :=
  (extends_runProgram host h p).bind rfl fun _ => .refl _

/-! ## Sleeps -/

section

variable {env : Environment σ}

/-- The only event that counts is a sleep that is noticed. -/
theorem sleeps_emit (env : Environment σ) (event : Event) (w : World σ) :
    (env.emit event w).sleeps = w.sleeps + if env.notices event && event.isSleep then 1 else 0 := by
  rw [Environment.emit]
  -- an event that is not noticed leaves no trace
  cases hnotices : env.notices event with
  | false => rfl
  | true =>
    show (event :: w.past).countP Event.isSleep = _
    rw [List.countP_cons, Bool.true_and]
    rfl

theorem sleeps_le_emit (env : Environment σ) (event : Event) (w : World σ) : w.sleeps ≤ (env.emit event w).sleeps := by
  rw [sleeps_emit]
  exact Nat.le_add_right _ _

/-- A runner does not sleep. -/
theorem sleeps_runner {block : Block} {runner : StateM (World σ) (Except String Unit)}
    (h : env.runner? block = some runner) (w : World σ) : (runner w).2.sleeps = w.sleeps := by
  rcases Environment.runner?_cases h with ⟨outcome, -, rfl⟩ | ⟨channel, command, -, -, -, rfl⟩
  · show (env.emit (.runner block.id) w).sleeps = w.sleeps
    rw [sleeps_emit]
    simp [Event.isSleep]
  · rw [World.sleeps, Environment.past_deliver]
    rfl

/-! ## Out of patience -/

/-- A computation does not take sleeps back, and when it is out of patience it has slept this often. -/
def Patient (count : Nat) (x : StateM (World σ) (Except Halt α)) : Prop :=
  ∀ w, w.sleeps ≤ (x w).2.sleeps ∧ ((x w).1 = .error .outOfPatience → w.sleeps + count ≤ (x w).2.sleeps)

namespace Patient

variable {count : Nat}

theorem pure {outcome : Except Halt α} (h : outcome ≠ .error .outOfPatience) :
    Patient (σ := σ) count (Pure.pure outcome) :=
  fun _ => ⟨Nat.le_refl _, fun hout => absurd hout h⟩

theorem outOfPatience : Patient (σ := σ) (α := α) 0 (Pure.pure (.error .outOfPatience)) :=
  fun _ => ⟨Nat.le_refl _, fun _ => Nat.le_refl _⟩

/-- What follows a step that takes no sleeps back. -/
theorem lift_bind {step : StateM (World σ) β} {next : β → StateM (World σ) (Except Halt α)}
    (hstep : ∀ w, w.sleeps ≤ (step w).2.sleeps) (h : ∀ b, Patient count (next b)) :
    Patient count (step >>= next) := by
  intro w
  obtain ⟨hle, hout⟩ := h (step w).1 (step w).2
  have hfirst := hstep w
  exact ⟨Nat.le_trans hfirst hle, fun hpatience => Nat.le_trans (Nat.add_le_add_right hfirst count) (hout hpatience)⟩

/-- What follows a part of a run that may be out of patience, which is handed on. -/
theorem bind {x : StateM (World σ) (Except Halt β)} {next : Except Halt β → StateM (World σ) (Except Halt α)}
    (hx : Patient count x) (hhalt : next (.error .outOfPatience) = Pure.pure (.error .outOfPatience))
    (h : ∀ answer, answer ≠ .error .outOfPatience → Patient count (next answer)) : Patient count (x >>= next) := by
  intro w
  obtain ⟨hle, hout⟩ := hx w
  show w.sleeps ≤ (next (x w).1 (x w).2).2.sleeps ∧
    ((next (x w).1 (x w).2).1 = .error .outOfPatience → w.sleeps + count ≤ (next (x w).1 (x w).2).2.sleeps)
  by_cases hanswer : (x w).1 = .error .outOfPatience
  · rw [hanswer, hhalt]
    exact ⟨hle, fun _ => hout hanswer⟩
  · obtain ⟨hle', hout'⟩ := h (x w).1 hanswer (x w).2
    exact ⟨Nat.le_trans hle hle', fun hpatience => Nat.le_trans (Nat.add_le_add_right hle count) (hout' hpatience)⟩

/-- What follows either of two parts. -/
theorem ite_bind {c : Prop} [Decidable c] {x y : StateM (World σ) (Except Halt β)}
    {next : Except Halt β → StateM (World σ) (Except Halt α)} (hx : Patient count x) (hy : Patient count y)
    (hhalt : next (.error .outOfPatience) = Pure.pure (.error .outOfPatience))
    (h : ∀ answer, answer ≠ .error .outOfPatience → Patient count (next answer)) :
    Patient count (if c then x >>= next else y >>= next) := by
  split_ifs
  · exact hx.bind hhalt h
  · exact hy.bind hhalt h

/-- What follows a sleep. -/
theorem sleep_bind {length : Nat} (hnotices : env.notices (.sleep length) = true)
    {next : Unit → StateM (World σ) (Except Halt α)} (h : Patient count (next ())) :
    Patient (count + 1) (env.host.emit (.sleep length) >>= next) := by
  intro w
  have hsleep : (env.emit (.sleep length) w).sleeps = w.sleeps + 1 := by
    rw [sleeps_emit, hnotices]
    rfl
  obtain ⟨hle, hout⟩ := h (env.emit (.sleep length) w)
  rw [hsleep] at hle hout
  refine ⟨Nat.le_of_succ_le hle, fun hpatience => ?_⟩
  have hlast := hout hpatience
  show w.sleeps + (count + 1) ≤ (next () (env.emit (.sleep length) w)).2.sleeps
  omega

theorem mono {count' : Nat} {x : StateM (World σ) (Except Halt α)} (h : Patient count x) (hle : count' ≤ count) :
    Patient count' x :=
  fun w => ⟨(h w).1, fun hout => Nat.le_trans (Nat.add_le_add_left hle _) ((h w).2 hout)⟩

end Patient

variable {count : Nat}

/-- Rounds are patient when one round is. -/
theorem patient_times {body : StateM (World σ) (Except Halt Unit)} (h : Patient count body) (n : Nat) :
    Patient count (times body n) := by
  induction n with
  | zero => exact .pure nofun
  | succ n ih =>
    rw [times]
    refine h.bind rfl fun answer hanswer => ?_
    cases answer with
    | error halt => exact .pure hanswer
    | ok => exact ih

/-- A wait sleeps in every round. -/
theorem patient_poll (hnotices : ∀ length, env.notices (.sleep length) = true) (id : String) (c : Condition)
    (patience : Nat) : Patient patience (poll env.host id c patience) := by
  induction patience with
  | zero => exact .outOfPatience
  | succ patience ih =>
    rw [poll]
    -- one sleep for this round, and the patience left is for the others
    refine .sleep_bind (hnotices _) (.lift_bind (fun _ => Nat.le_refl _) fun s => ?_)
    match c.evaluate s with
    | .error _ => exact .pure nofun
    | .ok true => exact .pure nofun
    | .ok false =>
      refine .lift_bind (fun _ => Nat.le_refl _) fun running => ?_
      cases running with
      | false => exact .pure nofun
      | true => exact ih

/-- A block that only tells of something has patience to spare. -/
theorem patient_event (event : Event) :
    Patient count (env.host.emit event >>= fun _ => pure (.ok ())) :=
  .lift_bind (sleeps_le_emit env event) fun _ => .pure nofun

/-- A block without children is patient. -/
theorem patient_runStatement (hnotices : ∀ length, env.notices (.sleep length) = true) (id : String)
    (kind : StatementKind) (patience : Nat) : Patient patience (runStatement env.host patience id kind) := by
  cases kind with
  | sleep value => exact patient_event (.sleep (sleepLength value))
  | log value => exact patient_event (.log value)
  | alert value => exact patient_event (.alert value)
  | wait condition =>
    rw [runStatement]
    match Condition.read condition with
    | .error _ => exact .pure nofun
    | .ok c => exact patient_poll hnotices id c patience
  | deviceSet device prop value => exact .pure nofun

/-- A container is patient when its children are. -/
theorem patient_runContainer (id : String) (kind : ContainerKind) (isEmpty : Bool)
    {children : StateM (World σ) (Except Halt Unit)} (h : Patient count children) :
    Patient count (runContainer env.host id kind isEmpty children) := by
  cases kind with
  -- a loop is as patient as its children, however often they are run
  | loop n =>
    rw [runContainer]
    split_ifs
    · exact .pure nofun
    · exact patient_times h n.toNat
  | branch condition =>
    rw [runContainer]
    match Condition.read condition with
    | .error _ => exact .pure nofun
    | .ok c =>
      refine .lift_bind (fun _ => Nat.le_refl _) fun s => ?_
      match c.evaluate s with
      | .error _ => exact .pure nofun
      | .ok true => exact h
      | .ok false => exact .pure nofun
  | _ => exact .pure nofun

/-- A runner has patience to spare. -/
theorem patient_runWith {block : Block} {runner : StateM (World σ) (Except String Unit)}
    (hrunner : env.runner? block = some runner) : Patient count (runWith block.id runner) := by
  refine .lift_bind (fun w => Nat.le_of_eq (sleeps_runner hrunner w).symm) fun answer => ?_
  cases answer with
  | ok => exact .pure nofun
  | error message => exact .pure nofun

/-- A block is patient when its children are. -/
theorem patient_runBlock (hnotices : ∀ length, env.notices (.sleep length) = true) {block : Block} {patience : Nat}
    (hchildren : Patient patience (runBlocks env.host patience block.children)) :
    Patient patience (runBlock env.host patience block) := by
  have hhost : env.host.runner? block = env.runner? block := rfl
  cases block with
  | container id position kind children =>
    rw [runBlock, hhost]
    cases hrunner : env.runner? (.container id position kind children) with
    | some runner => exact patient_runWith hrunner
    | none => exact patient_runContainer id kind _ hchildren
  | statement id position kind =>
    rw [runBlock, hhost]
    cases hrunner : env.runner? (.statement id position kind) with
    | some runner => exact patient_runWith hrunner
    | none => exact patient_runStatement hnotices id kind patience

/-- Blocks are patient. -/
theorem patient_runBlocks (hnotices : ∀ length, env.notices (.sleep length) = true) (patience : Nat)
    (blocks : List Block) : Patient patience (runBlocks env.host patience blocks) := by
  induction blocks using Block.children_induction with
  | nil =>
    rw [runBlocks]
    exact .pure nofun
  | cons block rest hchildren hrest =>
    rw [runBlocks]
    refine .lift_bind (fun _ => Nat.le_refl _) fun running => ?_
    -- a stopped run needs no patience
    cases running with
    | false => exact .pure nofun
    | true =>
      refine .lift_bind (sleeps_le_emit env _) fun _ => (patient_runBlock hnotices hchildren).bind rfl ?_
      intro answer hanswer
      cases answer with
      | error halt => exact .pure hanswer
      | ok => exact .lift_bind (sleeps_le_emit env _) fun _ => hrest

/-- The passes of a forever container are a sleep apart. -/
theorem patient_passes (hnotices : ∀ length, env.notices (.sleep length) = true) {patience : Nat}
    {body : StateM (World σ) (Except Halt Unit)} (hbody : Patient patience body) (k begun : Nat) (hk : k ≤ patience) :
    Patient k (passes env.host body k begun) := by
  induction k generalizing begun with
  | zero => exact .outOfPatience
  | succ k ih =>
    rw [passes]
    refine .lift_bind (fun _ => Nat.le_refl _) fun running => ?_
    cases running with
    | false => exact .pure nofun
    | true =>
      -- within a pass there is patience to spare
      refine (hbody.mono hk).bind rfl fun answer hanswer => ?_
      cases answer with
      | error halt => exact .pure fun hout => hanswer (congrArg _ (Except.error.inj hout))
      | ok =>
        show Patient (k + 1) (ite (env.maxPasses.any _) _ _)
        split_ifs
        · exact .pure nofun
        · -- one sleep between this pass and the next
          exact .sleep_bind (hnotices _) (ih (begun + 1) (Nat.le_of_succ_le hk))

/-- A program is patient. -/
theorem patient_runProgram (hnotices : ∀ length, env.notices (.sleep length) = true) (patience : Nat) (p : Program) :
    Patient patience (runProgram env.host patience p) := by
  have hblocks (type : BlockType) := patient_runBlocks hnotices patience (childrenOf p type)
  rw [runProgram]
  refine (hblocks .once).bind rfl fun answer hanswer => ?_
  cases answer with
  | error halt => exact .pure fun hout => hanswer (congrArg _ (Except.error.inj hout))
  | ok =>
    -- without a forever container no pass is begun
    refine .ite_bind (.pure nofun) (patient_passes hnotices (hblocks .forever) patience 0 (Nat.le_refl _)) rfl
      fun answer hanswer => ?_
    cases answer with
    | error halt => exact .pure fun hout => hanswer (congrArg _ (Except.error.inj hout))
    | ok begun => exact .lift_bind (fun _ => Nat.le_refl _) fun _ => .pure nofun

/-- So is a run of it, with what follows a failure. -/
theorem patient_execute (hnotices : ∀ length, env.notices (.sleep length) = true) (patience : Nat) (p : Program) :
    Patient patience (execute env.host patience p) := by
  refine (patient_runProgram hnotices patience p).bind rfl fun answer hanswer => ?_
  match answer with
  | .ok summary => exact .pure nofun
  | .error .outOfPatience => exact absurd rfl hanswer
  | .error (.failed error) => exact .lift_bind (sleeps_le_emit env _) fun _ => .pure nofun

end

end Run

namespace Environment

/-- A run that has ended within some patience ends in the same way within any greater one. -/
theorem execute_of_le (env : Environment σ) {patience patience' : Nat} (h : patience ≤ patience') (p : Program)
    (w : World σ) (hends : (env.execute patience p w).1 ≠ .error .outOfPatience) :
    env.execute patience' p w = env.execute patience p w :=
  Run.extends_execute env.host h p w hends

/-- A run that is out of patience has slept at least as often as it had patience. -/
theorem sleeps_of_outOfPatience {env : Environment σ} (hnotices : ∀ length, env.notices (.sleep length) = true)
    {patience : Nat} {p : Program} {w : World σ} (h : (env.execute patience p w).1 = .error .outOfPatience) :
    w.sleeps + patience ≤ (env.execute patience p w).2.sleeps :=
  (Run.patient_execute hnotices patience p w).2 h

end Environment

end Signalbox
