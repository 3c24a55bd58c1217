import Signalbox.Proofs.Block.Node
import Signalbox.Run.World

/-!
# How runs go

What a run does is more than its surroundings notice: an event may go unnoticed, a channel takes a command
without an event, and the count of the passes shows only at the end. A `Journal` has all of it, each thing with
the world after it, so that one can say at which point of a run something happens.

`Run.Goes` says how each part of a run goes, and what it does on the way. What holds of all runs is proved by
induction on it, and not by another walk through the interpreter. It does not speak of patience: whoever is out
of it may be so at any poll and before any pass.

Main results:

* `Run.Goes` / `Run.GoesPasses` / `Run.GoesProgram` / `Run.GoesRun`: the rules for blocks, for passes, and for
  programs.
* `Run.GoesRun.events_eq`: what the surroundings have noticed of a run.
-/

namespace Signalbox

variable {σ : Type}

/-- Something that a run does. -/
inductive Doing where
  | event (event : Event)
  /-- A runner of the surroundings runs a block. -/
  | runner (block : Block)
  /-- A pass over the forever container is counted. -/
  | pass

/-- Something that a run does, and the world after it. -/
structure Moment (σ : Type) where
  doing : Doing
  world : World σ

/-- What a run does, in its order. -/
abbrev Journal (σ : Type) := List (Moment σ)

namespace Environment

/-- The moment of an event. -/
def moment (env : Environment σ) (event : Event) (w : World σ) : Moment σ :=
  ⟨.event event, env.emit event w⟩

end Environment

namespace Run

/-- What a block does when it begins. -/
inductive Course (σ : Type) where
  | runner (runner : StateM (World σ) (Except String Unit))
  | event (event : Event)
  | children (count : Nat)
  | poll (condition : Condition)
  | fail (error : RunError)

/-- What a block does when it begins in a world. -/
def course (env : Environment σ) (w : World σ) (block : Block) : Course σ :=
  match env.runner? block with
  | some runner => .runner runner
  | none =>
    match block with
    | .statement _ _ (.sleep value) => .event (.sleep (sleepLength value))
    | .statement _ _ (.log value) => .event (.log value)
    | .statement _ _ (.alert value) => .event (.alert value)
    | .statement id _ (.wait condition) =>
      match Condition.read condition with
      | .ok c => .poll c
      | .error reason => .fail (.condition id reason)
    | .statement id _ (.deviceSet ..) => .fail (.unknownType id .deviceSet)
    | .container _ _ (.loop count) children => .children (if children.isEmpty then 0 else count.toNat)
    | .container id _ (.branch condition) _ =>
      match Condition.read condition with
      | .error reason => .fail (.condition id reason)
      | .ok c =>
        match c.evaluate w.devices with
        | .ok holds => .children holds.toNat
        | .error reason => .fail (.condition id reason)
    | .container id _ .once _ => .fail (.unknownType id .once)
    | .container id _ .forever _ => .fail (.unknownType id .forever)
    | .container id _ .dummy _ => .fail (.unknownType id .dummy)

/-- What a block does by itself, and not by what is inside it. -/
inductive Own (tick : Nat) : Block → Doing → Prop where
  | runner (block : Block) : Own tick block (.runner block)
  | log (id : String) (position : Option Position) (value : Scalar) :
    Own tick (.statement id position (.log value)) (.event (.log value))
  | alert (id : String) (position : Option Position) (value : Scalar) :
    Own tick (.statement id position (.alert value)) (.event (.alert value))
  | sleep (id : String) (position : Option Position) (value : Scalar) :
    Own tick (.statement id position (.sleep value)) (.event (.sleep (sleepLength value)))
  | wait (id : String) (position : Option Position) (condition : String) :
    Own tick (.statement id position (.wait condition)) (.event (.sleep tick))

section

variable {env : Environment σ} {w : World σ} {block : Block}

/-- A block whose course is a runner has that runner. -/
theorem runner?_of_course {runner : StateM (World σ) (Except String Unit)}
    (h : course env w block = .runner runner) : env.runner? block = some runner := by
  unfold course at h
  split at h
  · next other hother =>
    obtain rfl := Course.runner.inj h
    exact hother
  · repeat' split at h
    all_goals cases h

/-- A block whose course is an event does it by itself. -/
theorem own_of_course_event {event : Event} (h : course env w block = .event event) :
    Own env.tick block (.event event) := by
  unfold course at h
  repeat' split at h
  all_goals cases h
  · exact .sleep _ _ _
  · exact .log _ _ _
  · exact .alert _ _ _

/-- A block that polls sleeps for a tick by itself. -/
theorem own_of_course_poll {c : Condition} (h : course env w block = .poll c) :
    Own env.tick block (.event (.sleep env.tick)) := by
  unfold course at h
  repeat' split at h
  all_goals cases h
  exact .wait _ _ _

/-- The error of a block names the block. -/
theorem block_of_course_fail {error : RunError} (h : course env w block = .fail error) :
    error.block = block.id := by
  unfold course at h
  repeat' split at h
  all_goals cases h
  all_goals rfl

end

/-- A part of a run. -/
inductive Stage where
  | blocks (blocks : List Block)
  | block (block : Block)
  | times (count : Nat) (blocks : List Block)
  | poll (block : String) (condition : Condition)

/-- How a part of a run goes. -/
inductive Goes (env : Environment σ) : Stage → World σ → Journal σ → Except Halt Unit → World σ → Prop where
  | nil (w : World σ) : Goes env (.blocks []) w [] (.ok ()) w
  | stopped {blocks : List Block} {w : World σ} (h : w.running = false) :
    Goes env (.blocks blocks) w [] (.ok ()) w
  | halted {block : Block} {rest : List Block} {w w' : World σ} {j : Journal σ} {halt : Halt}
    (h : w.running = true)
    (hblock : Goes env (.block block) (env.emit (.active (some block.id)) w) j (.error halt) w') :
    Goes env (.blocks (block :: rest)) w (env.moment (.active (some block.id)) w :: j) (.error halt) w'
  | next {block : Block} {rest : List Block} {w w₁ w' : World σ} {j j' : Journal σ}
    {outcome : Except Halt Unit} (h : w.running = true)
    (hblock : Goes env (.block block) (env.emit (.active (some block.id)) w) j (.ok ()) w₁)
    (hrest : Goes env (.blocks rest) (env.emit (.active none) w₁) j' outcome w') :
    Goes env (.blocks (block :: rest)) w
      (env.moment (.active (some block.id)) w :: (j ++ env.moment (.active none) w₁ :: j')) outcome w'
  | runner {block : Block} {w : World σ} {runner : StateM (World σ) (Except String Unit)}
    (h : course env w block = .runner runner) :
    Goes env (.block block) w [⟨.runner block, (runner w).2⟩]
      ((runner w).1.mapError fun message => .failed (.runner block.id message)) (runner w).2
  | event {block : Block} {w : World σ} {event : Event} (h : course env w block = .event event) :
    Goes env (.block block) w [env.moment event w] (.ok ()) (env.emit event w)
  | children {block : Block} {w w' : World σ} {count : Nat} {j : Journal σ} {outcome : Except Halt Unit}
    (h : course env w block = .children count)
    (htimes : Goes env (.times count block.children) w j outcome w') :
    Goes env (.block block) w j outcome w'
  | poll {block : Block} {w w' : World σ} {c : Condition} {j : Journal σ} {outcome : Except Halt Unit}
    (h : course env w block = .poll c) (hpoll : Goes env (.poll block.id c) w j outcome w') :
    Goes env (.block block) w j outcome w'
  | fail {block : Block} {w : World σ} {error : RunError} (h : course env w block = .fail error) :
    Goes env (.block block) w [] (.error (.failed error)) w
  | zero (blocks : List Block) (w : World σ) : Goes env (.times 0 blocks) w [] (.ok ()) w
  | timesHalted {count : Nat} {blocks : List Block} {w w' : World σ} {j : Journal σ} {halt : Halt}
    (hblocks : Goes env (.blocks blocks) w j (.error halt) w') :
    Goes env (.times (count + 1) blocks) w j (.error halt) w'
  | timesNext {count : Nat} {blocks : List Block} {w w₁ w' : World σ} {j j' : Journal σ}
    {outcome : Except Halt Unit} (hblocks : Goes env (.blocks blocks) w j (.ok ()) w₁)
    (hrest : Goes env (.times count blocks) w₁ j' outcome w') :
    Goes env (.times (count + 1) blocks) w (j ++ j') outcome w'
  | outOfPatience (id : String) (c : Condition) (w : World σ) :
    Goes env (.poll id c) w [] (.error .outOfPatience) w
  | pollFails {id : String} {c : Condition} {w : World σ} {reason : ConditionError}
    (h : c.evaluate (env.emit (.sleep env.tick) w).devices = .error reason) :
    Goes env (.poll id c) w [env.moment (.sleep env.tick) w] (.error (.failed (.condition id reason)))
      (env.emit (.sleep env.tick) w)
  | pollEnds {id : String} {c : Condition} {w : World σ} {holds : Bool}
    (h : c.evaluate (env.emit (.sleep env.tick) w).devices = .ok holds)
    (hends : holds = true ∨ (env.emit (.sleep env.tick) w).running = false) :
    Goes env (.poll id c) w [env.moment (.sleep env.tick) w] (.ok ()) (env.emit (.sleep env.tick) w)
  | pollAgain {id : String} {c : Condition} {w w' : World σ} {j : Journal σ} {outcome : Except Halt Unit}
    (h : c.evaluate (env.emit (.sleep env.tick) w).devices = .ok false)
    (hrunning : (env.emit (.sleep env.tick) w).running = true)
    (hrest : Goes env (.poll id c) (env.emit (.sleep env.tick) w) j outcome w') :
    Goes env (.poll id c) w (env.moment (.sleep env.tick) w :: j) outcome w'

/-- A list of blocks is run once. -/
theorem Goes.once {env : Environment σ} {blocks : List Block} {w w' : World σ} {j : Journal σ}
    {outcome : Except Halt Unit} (h : Goes env (.blocks blocks) w j outcome w') :
    Goes env (.times 1 blocks) w j outcome w' := by
  cases outcome with
  | error halt => exact .timesHalted h
  | ok =>
    rw [← List.append_nil j]
    exact .timesNext h (.zero blocks w')

/-! ## Programs -/

/-- How the passes over the children of a forever container go, from a number of passes on. -/
inductive GoesPasses (env : Environment σ) (blocks : List Block) :
    Nat → World σ → Journal σ → Except Halt Nat → World σ → Prop where
  | empty {begun : Nat} {w : World σ} (h : blocks = []) : GoesPasses env blocks begun w [] (.ok begun) w
  | stopped {begun : Nat} {w : World σ} (h : w.running = false) :
    GoesPasses env blocks begun w [] (.ok begun) w
  | outOfPatience (begun : Nat) (w : World σ) :
    GoesPasses env blocks begun w [] (.error .outOfPatience) w
  | halted {begun : Nat} {w w' : World σ} {j : Journal σ} {halt : Halt} (h : w.running = true)
    (hblocks : Goes env (.blocks blocks) w j (.error halt) w') :
    GoesPasses env blocks begun w (⟨.pass, w⟩ :: j) (.error halt) w'
  | last {begun : Nat} {w w' : World σ} {j : Journal σ} (h : w.running = true)
    (hblocks : Goes env (.blocks blocks) w j (.ok ()) w') (hlimit : env.maxPasses.any (· ≤ begun + 1) = true) :
    GoesPasses env blocks begun w (⟨.pass, w⟩ :: j) (.ok (begun + 1)) w'
  | next {begun : Nat} {w w₁ w' : World σ} {j j' : Journal σ} {outcome : Except Halt Nat}
    (h : w.running = true) (hblocks : Goes env (.blocks blocks) w j (.ok ()) w₁)
    (hlimit : env.maxPasses.any (· ≤ begun + 1) = false)
    (hrest : GoesPasses env blocks (begun + 1) (env.emit (.sleep env.tick) w₁) j' outcome w') :
    GoesPasses env blocks begun w (⟨.pass, w⟩ :: (j ++ env.moment (.sleep env.tick) w₁ :: j')) outcome w'

/-- How a program goes, up to its last word. -/
inductive GoesProgram (env : Environment σ) (p : Program) :
    World σ → Journal σ → Except Halt RunSummary → World σ → Prop where
  | onceHalted {w w' : World σ} {j : Journal σ} {halt : Halt}
    (honce : Goes env (.blocks (childrenOf p .once)) w j (.error halt) w') :
    GoesProgram env p w j (.error halt) w'
  | foreverHalted {w w₁ w' : World σ} {j j' : Journal σ} {halt : Halt}
    (honce : Goes env (.blocks (childrenOf p .once)) w j (.ok ()) w₁)
    (hforever : GoesPasses env (childrenOf p .forever) 0 w₁ j' (.error halt) w') :
    GoesProgram env p w (j ++ j') (.error halt) w'
  | ends {w w₁ w' : World σ} {j j' : Journal σ} {begun : Nat}
    (honce : Goes env (.blocks (childrenOf p .once)) w j (.ok ()) w₁)
    (hforever : GoesPasses env (childrenOf p .forever) 0 w₁ j' (.ok begun) w') :
    GoesProgram env p w (j ++ j') (.ok ⟨¬ (childrenOf p .once).isEmpty, begun, ¬ w'.running⟩) w'

/-- How a run of a program goes: a failure is followed by a last event. -/
inductive GoesRun (env : Environment σ) (p : Program) :
    World σ → Journal σ → Except Halt RunSummary → World σ → Prop where
  | ends {w w' : World σ} {j : Journal σ} {summary : RunSummary}
    (hprogram : GoesProgram env p w j (.ok summary) w') : GoesRun env p w j (.ok summary) w'
  | outOfPatience {w w' : World σ} {j : Journal σ}
    (hprogram : GoesProgram env p w j (.error .outOfPatience) w') :
    GoesRun env p w j (.error .outOfPatience) w'
  | failed {w w' : World σ} {j : Journal σ} {error : RunError}
    (hprogram : GoesProgram env p w j (.error (.failed error)) w') :
    GoesRun env p w (j ++ [env.moment (.active none) w']) (.error (.failed error)) (env.emit (.active none) w')

/-! ## The world at a point of a run -/

/-- The world after a journal that begins in a world. -/
def standing (w : World σ) (j : Journal σ) : World σ :=
  j.foldl (fun _ m => m.world) w

theorem standing_append (w : World σ) (j j' : Journal σ) : standing w (j ++ j') = standing (standing w j) j' :=
  List.foldl_append

section

variable {env : Environment σ} {stage : Stage} {p : Program} {w w' : World σ} {j : Journal σ}

/-- A part of a run ends in the world that its journal ends in. -/
theorem Goes.standing_eq (h : Goes env stage w j outcome w') : standing w j = w' := by
  induction h with
  | nil | stopped | fail | zero | outOfPatience | runner | event | pollFails | pollEnds => rfl
  | halted _ _ ih | children _ _ ih | poll _ _ ih | timesHalted _ ih | pollAgain _ _ _ ih => exact ih
  | @next block _ w _ _ j j' _ _ _ _ ihBlock ihRest =>
    show standing (env.emit (.active (some block.id)) w) (j ++ _) = _
    rw [standing_append, ihBlock]
    exact ihRest
  | timesNext _ _ ihBlocks ihRest => rw [standing_append, ihBlocks, ihRest]

/-- The passes leave the world where their journal does. -/
theorem GoesPasses.standing_eq {blocks : List Block} {begun : Nat} {outcome : Except Halt Nat}
    (h : GoesPasses env blocks begun w j outcome w') : standing w j = w' := by
  induction h with
  | empty | stopped | outOfPatience => rfl
  | halted _ hblocks | last _ hblocks _ => exact hblocks.standing_eq
  | @next _ w _ _ j j' _ _ hblocks _ _ ih =>
    show standing w (j ++ _) = _
    rw [standing_append, hblocks.standing_eq]
    exact ih

/-- A program leaves the world where its journal does. -/
theorem GoesProgram.standing_eq {outcome : Except Halt RunSummary} (h : GoesProgram env p w j outcome w') :
    standing w j = w' := by
  cases h with
  | onceHalted honce => exact honce.standing_eq
  | foreverHalted honce hforever | ends honce hforever =>
    rw [standing_append, honce.standing_eq, hforever.standing_eq]

end

/-! ## What is noticed -/

/-- What the surroundings notice of something that a run does. -/
def noticed (env : Environment σ) : Doing → List Event
  | .event event => if env.notices event then [event] else []
  | .runner block =>
    if (env.foreign? block).isSome && env.notices (.runner block.id) then [.runner block.id] else []
  | .pass => []

/-- What the surroundings notice of a journal. -/
def noticedIn (env : Environment σ) (j : Journal σ) : List Event :=
  j.flatMap fun m => noticed env m.doing

variable {env : Environment σ} {stage : Stage} {p : Program} {w w' : World σ} {j : Journal σ}

theorem noticedIn_cons (env : Environment σ) (m : Moment σ) (j : Journal σ) :
    noticedIn env (m :: j) = noticed env m.doing ++ noticedIn env j :=
  List.flatMap_cons

theorem noticedIn_append (env : Environment σ) (j j' : Journal σ) :
    noticedIn env (j ++ j') = noticedIn env j ++ noticedIn env j' :=
  List.flatMap_append

/-- An event is noticed at the end. -/
theorem events_emit (env : Environment σ) (event : Event) (w : World σ) :
    (env.emit event w).events = w.events ++ noticed env (.event event) := by
  rw [World.events, World.events, Environment.emit, noticed]
  split_ifs
  · exact List.reverse_cons
  · rw [List.append_nil]

/-- A runner's work is noticed at the end. -/
theorem events_runner {block : Block} {runner : StateM (World σ) (Except String Unit)}
    (h : env.runner? block = some runner) (w : World σ) :
    (runner w).2.events = w.events ++ noticed env (.runner block) := by
  rcases Environment.runner?_cases h with ⟨outcome, hforeign, rfl⟩ | ⟨channel, command, hforeign, -, -, rfl⟩
  · rw [noticed, hforeign]
    exact events_emit env (.runner block.id) w
  · -- a channel takes a command without a word
    rw [World.events, Environment.past_deliver, noticed, hforeign]
    exact (List.append_nil _).symm

/-- What was noticed in a run is what its journal says. -/
theorem Goes.events_eq {outcome : Except Halt Unit} (h : Goes env stage w j outcome w') :
    w'.events = w.events ++ noticedIn env j := by
  induction h with
  | nil | stopped | fail | zero | outOfPatience => exact (List.append_nil _).symm
  | halted _ _ ih => rw [ih, events_emit, noticedIn_cons, List.append_assoc]; rfl
  | next _ _ _ ihBlock ihRest =>
    rw [ihRest, events_emit, ihBlock, events_emit, noticedIn_cons, noticedIn_append, noticedIn_cons]
    simp only [List.append_assoc]
    rfl
  | runner h =>
    rw [events_runner (runner?_of_course h), noticedIn_cons]
    exact congrArg _ (List.append_nil _).symm
  | event | pollFails | pollEnds =>
    rw [events_emit, noticedIn_cons]
    exact congrArg _ (List.append_nil _).symm
  | children _ _ ih | poll _ _ ih | timesHalted _ ih => exact ih
  | timesNext _ _ ihBlocks ihRest => rw [ihRest, ihBlocks, noticedIn_append, List.append_assoc]
  | pollAgain _ _ _ ih => rw [ih, events_emit, noticedIn_cons, List.append_assoc]; rfl

/-- What was noticed in the passes is what their journal says. -/
theorem GoesPasses.events_eq {blocks : List Block} {begun : Nat} {outcome : Except Halt Nat}
    (h : GoesPasses env blocks begun w j outcome w') : w'.events = w.events ++ noticedIn env j := by
  induction h with
  | empty | stopped | outOfPatience => exact (List.append_nil _).symm
  | halted _ hblocks | last _ hblocks _ => exact hblocks.events_eq
  | next _ hblocks _ _ ih =>
    rw [ih, events_emit, hblocks.events_eq, noticedIn_cons, noticedIn_append, noticedIn_cons]
    simp only [List.append_assoc]
    rfl

/-- What was noticed in a program is what its journal says. -/
theorem GoesProgram.events_eq {outcome : Except Halt RunSummary} (h : GoesProgram env p w j outcome w') :
    w'.events = w.events ++ noticedIn env j := by
  cases h with
  | onceHalted honce => exact honce.events_eq
  | foreverHalted honce hforever | ends honce hforever =>
    rw [hforever.events_eq, honce.events_eq, noticedIn_append, List.append_assoc]

/-- What the surroundings have noticed after a run is what they noticed before it and then what they notice of
its journal. -/
theorem GoesRun.events_eq {outcome : Except Halt RunSummary} (h : GoesRun env p w j outcome w') :
    w'.events = w.events ++ noticedIn env j := by
  cases h with
  | ends hprogram | outOfPatience hprogram => exact hprogram.events_eq
  | failed hprogram =>
    rw [events_emit, hprogram.events_eq, noticedIn_append, List.append_assoc, noticedIn_cons]
    exact congrArg _ (congrArg _ (List.append_nil _).symm)

end Run

end Signalbox
