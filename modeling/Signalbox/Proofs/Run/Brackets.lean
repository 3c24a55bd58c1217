import Signalbox.Proofs.Run.Journal

/-!
# Blocks begin and end

The surroundings are told when a block begins and when the block that began last ends, so that they can show
which block is active. `Run.Bracketed` says that such calls nest like the blocks themselves do: inside a block
only its children begin, and each of them ends before the next begins.

A run that ends leaves no block active. A run that fails leaves the block that failed, and all those around it,
without an end; one call at the end of the run then tells that no block is active.

Main results:

* `Run.Goes.bracketed`: the calls of a part of a run, whether it ends or is halted.
* `Run.Goes.failsAt`: the last call before a failure.
* `Run.bracketed_of_execute`: the calls of a run of a program.
-/

namespace Signalbox

variable {σ : Type}

namespace Event

/-- What an event tells of active blocks: a block begins, or the block that began last ends. -/
def call? : Event → Option (Option String)
  | .active id => some id
  | _ => none

/-- A sleep, or what a runner of the surroundings does. -/
def IsQuiet : Event → Prop
  | .sleep _ | .runner _ => True
  | _ => False

end Event

namespace Run

/-- The calls among events that tell of active blocks. -/
def calls (events : List Event) : List (Option String) :=
  events.filterMap Event.call?

/-- The blocks that are not inside another one when they are run. -/
def roots (p : Program) : List Block :=
  childrenOf p .once ++ childrenOf p .forever

/-- Calls by which blocks of a list begin and end one after the other, and inside each of them its children. -/
inductive Bracketed : List Block → List (Option String) → Prop where
  | nil (blocks : List Block) : Bracketed blocks []
  | cons {blocks : List Block} {block : Block} {inside rest : List (Option String)} (hmem : block ∈ blocks)
    (hinside : Bracketed block.children inside) (hrest : Bracketed blocks rest) :
    Bracketed blocks (some block.id :: (inside ++ none :: rest))

namespace Bracketed

variable {blocks blocks' : List Block} {word word' : List (Option String)}

theorem mono (h : Bracketed blocks word) (hsub : blocks ⊆ blocks') : Bracketed blocks' word := by
  induction h with
  | nil => exact .nil blocks'
  | cons hmem hinside _ _ ihRest => exact .cons (hsub hmem) hinside (ihRest hsub)

theorem append (h : Bracketed blocks word) (h' : Bracketed blocks word') :
    Bracketed blocks (word ++ word') := by
  induction h with
  | nil => exact h'
  | cons hmem hinside _ _ ihRest =>
    rw [List.cons_append, List.append_assoc, List.cons_append]
    exact .cons hmem hinside (ihRest h')

end Bracketed

/-- The blocks that can begin next in a part of a run. -/
def Stage.inside : Stage → List Block
  | .blocks forest | .times _ forest => forest
  | .block root => root.children
  | .poll .. => []

/-- The block that a part of a run has begun with. -/
def Stage.own? : Stage → Option String
  | .blocks _ | .times .. => none
  | .block root => some root.id
  | .poll id _ => some id

/-! ## Calls -/

/-- What tells nothing of active blocks. -/
def Silent : Doing → Prop
  | .event (.active _) => False
  | _ => True

theorem Own.silent {tick : Nat} {block : Block} {doing : Doing} (h : Own tick block doing) : Silent doing := by
  cases h <;> trivial

/-- The calls of a journal that the surroundings notice. -/
def callsIn (env : Environment σ) (j : Journal σ) : List (Option String) :=
  calls (noticedIn env j)

variable {env : Environment σ} {stage : Stage} {p : Program} {w w' : World σ} {j : Journal σ}

theorem calls_append (events events' : List Event) : calls (events ++ events') = calls events ++ calls events' :=
  List.filterMap_append

theorem callsIn_append (env : Environment σ) (j j' : Journal σ) :
    callsIn env (j ++ j') = callsIn env j ++ callsIn env j' := by
  rw [callsIn, noticedIn_append, calls_append]
  rfl

/-- A silent moment adds no call. -/
theorem callsIn_cons_of_silent {m : Moment σ} (h : Silent m.doing) (j : Journal σ) :
    callsIn env (m :: j) = callsIn env j := by
  -- nothing that the surroundings may notice of this moment is a call
  have hnone : calls (noticed env m.doing) = [] := by
    unfold noticed
    split
    · next event hevent =>
      rw [hevent] at h
      split_ifs
      · cases event with
        | active => exact h.elim
        | log | alert | runner | sleep => rfl
      · rfl
    · split_ifs <;> rfl
    · rfl
  rw [callsIn, noticedIn_cons, calls_append, hnone]
  rfl

theorem callsIn_cons_sleep (n : Nat) (w : World σ) (j : Journal σ) :
    callsIn env (env.moment (.sleep n) w :: j) = callsIn env j :=
  callsIn_cons_of_silent (m := env.moment (.sleep n) w) trivial j

theorem callsIn_cons_pass (w : World σ) (j : Journal σ) : callsIn env (⟨.pass, w⟩ :: j) = callsIn env j :=
  callsIn_cons_of_silent (m := ⟨.pass, w⟩) trivial j

/-- An active block adds the call with its id. -/
theorem callsIn_cons_active (hobserver : ∀ id, env.notices (.active id) = true) (id : Option String)
    (w : World σ) (j : Journal σ) : callsIn env (env.moment (.active id) w :: j) = id :: callsIn env j := by
  have hcall : noticed env (.event (.active id)) = [.active id] := if_pos (hobserver id)
  rw [callsIn, noticedIn_cons, calls_append, Environment.moment, hcall]
  rfl

/-- The calls of a part of a run are well bracketed; if it is halted, then up to the ends that are missing. -/
theorem Goes.bracketed (hobserver : ∀ id, env.notices (.active id) = true) {outcome : Except Halt Unit}
    (h : Goes env stage w j outcome w') :
    ∃ missing, Bracketed stage.inside (callsIn env j ++ missing) ∧ (outcome = .ok () → missing = []) := by
  induction h with
  | nil | stopped | fail | zero | outOfPatience => exact ⟨[], .nil _, fun _ => rfl⟩
  | halted _ _ ih =>
    -- the block that has begun lacks its end, besides what is missing inside it
    obtain ⟨missing, hinside, -⟩ := ih
    refine ⟨missing ++ [none], ?_, fun hok => nomatch hok⟩
    rw [callsIn_cons_active hobserver, List.cons_append, ← List.append_assoc]
    exact .cons List.mem_cons_self hinside (.nil _)
  | next _ _ _ ihBlock ihRest =>
    obtain ⟨_, hinside, hnone⟩ := ihBlock
    obtain ⟨missing, hrest, hok⟩ := ihRest
    obtain rfl := hnone rfl
    refine ⟨missing, ?_, hok⟩
    rw [callsIn_cons_active hobserver, callsIn_append, callsIn_cons_active hobserver, List.cons_append,
      List.append_assoc, List.cons_append]
    rw [List.append_nil] at hinside
    exact .cons List.mem_cons_self hinside (hrest.mono (List.subset_cons_self _ _))
  | @runner block _ runner _ =>
    refine ⟨[], ?_, fun _ => rfl⟩
    have hsilent : Silent (.runner block) := trivial
    rw [callsIn_cons_of_silent hsilent]
    exact .nil _
  | event h =>
    refine ⟨[], ?_, fun _ => rfl⟩
    rw [callsIn_cons_of_silent (own_of_course_event h).silent]
    exact .nil _
  | children _ _ ih => exact ih
  | poll _ _ ih =>
    obtain ⟨missing, hpoll, hok⟩ := ih
    exact ⟨missing, hpoll.mono (List.nil_subset _), hok⟩
  | timesHalted _ ih => exact ih
  | timesNext _ _ ihBlocks ihRest =>
    obtain ⟨_, hblocks, hnone⟩ := ihBlocks
    obtain ⟨missing, hrest, hok⟩ := ihRest
    obtain rfl := hnone rfl
    refine ⟨missing, ?_, hok⟩
    rw [callsIn_append, List.append_assoc]
    rw [List.append_nil] at hblocks
    exact hblocks.append hrest
  | pollFails | pollEnds =>
    refine ⟨[], ?_, fun _ => rfl⟩
    rw [callsIn_cons_sleep]
    exact .nil _
  | pollAgain _ _ _ ih =>
    rw [callsIn_cons_sleep]
    exact ih

/-- The calls of the passes are bracketed, once what a failure left open is closed. -/
theorem GoesPasses.bracketed (hobserver : ∀ id, env.notices (.active id) = true) {blocks : List Block}
    {begun : Nat} {outcome : Except Halt Nat} (h : GoesPasses env blocks begun w j outcome w') :
    ∃ missing, Bracketed blocks (callsIn env j ++ missing) ∧ (∀ n, outcome = .ok n → missing = []) := by
  induction h with
  | empty | stopped | outOfPatience => exact ⟨[], .nil _, fun _ _ => rfl⟩
  | halted _ hblocks =>
    obtain ⟨missing, hcalls, -⟩ := hblocks.bracketed hobserver
    rw [callsIn_cons_pass]
    exact ⟨missing, hcalls, fun _ hok => nomatch hok⟩
  | last _ hblocks _ =>
    obtain ⟨missing, hcalls, hnone⟩ := hblocks.bracketed hobserver
    rw [callsIn_cons_pass]
    exact ⟨missing, hcalls, fun _ _ => hnone rfl⟩
  | next _ hblocks _ _ ih =>
    -- the sleep between two passes is no call
    obtain ⟨_, hcalls, hnone⟩ := hblocks.bracketed hobserver
    obtain ⟨missing, hrest, hok⟩ := ih
    obtain rfl := hnone rfl
    refine ⟨missing, ?_, hok⟩
    rw [callsIn_cons_pass, callsIn_append, callsIn_cons_sleep, List.append_assoc]
    rw [List.append_nil] at hcalls
    exact hcalls.append hrest

/-- The calls of a program are bracketed, once what a failure left open is closed. -/
theorem GoesProgram.bracketed (hobserver : ∀ id, env.notices (.active id) = true)
    {outcome : Except Halt RunSummary} (h : GoesProgram env p w j outcome w') :
    ∃ missing, Bracketed (roots p) (callsIn env j ++ missing) ∧
      (∀ summary, outcome = .ok summary → missing = []) := by
  have honceSub : childrenOf p .once ⊆ roots p := List.subset_append_left _ _
  have hforeverSub : childrenOf p .forever ⊆ roots p := List.subset_append_right _ _
  -- the setup containers run first; the main ones only if these went well
  cases h with
  | onceHalted honce =>
    obtain ⟨missing, hcalls, -⟩ := honce.bracketed hobserver
    exact ⟨missing, hcalls.mono honceSub, fun _ hok => nomatch hok⟩
  -- the setup containers went well, so nothing of theirs is left open
  | foreverHalted honce hforever =>
    obtain ⟨_, hcalls, hnone⟩ := honce.bracketed hobserver
    obtain ⟨missing, hrest, -⟩ := hforever.bracketed hobserver
    obtain rfl := hnone rfl
    refine ⟨missing, ?_, fun _ hok => nomatch hok⟩
    rw [callsIn_append, List.append_assoc]
    rw [List.append_nil] at hcalls
    exact (hcalls.mono honceSub).append (hrest.mono hforeverSub)
  | ends honce hforever =>
    obtain ⟨_, hcalls, hnone⟩ := honce.bracketed hobserver
    obtain ⟨missing, hrest, hok⟩ := hforever.bracketed hobserver
    obtain rfl := hnone rfl
    obtain rfl := hok _ rfl
    refine ⟨[], ?_, fun _ _ => rfl⟩
    rw [callsIn_append, List.append_assoc]
    rw [List.append_nil] at hcalls
    exact (hcalls.mono honceSub).append (hrest.mono hforeverSub)

/-! ## Failures -/

/-- Something fails at a block: the block has begun already and nothing but quiet events follows, or its
beginning is the last event that is not quiet. -/
def FailsAt (own? : Option String) (id : String) (events : List Event) : Prop :=
  (own? = some id ∧ ∀ event ∈ events, event.IsQuiet) ∨
    ∃ before after, events = before ++ .active (some id) :: after ∧ ∀ event ∈ after, event.IsQuiet

/-- What stands before the events does not matter, unless the block has begun already. -/
theorem FailsAt.append {id : String} {events : List Event} (h : FailsAt none id events)
    (own? : Option String) (earlier : List Event) : FailsAt own? id (earlier ++ events) := by
  rcases h with ⟨hid, -⟩ | ⟨before, after, rfl, hafter⟩
  · cases hid
  · exact .inr ⟨earlier ++ before, after, (List.append_assoc _ _ _).symm, hafter⟩

/-- What is noticed of a sleep is quiet. -/
theorem isQuiet_of_mem_noticed_sleep {n : Nat} {event : Event}
    (h : event ∈ noticed env (.event (.sleep n))) : event.IsQuiet := by
  rw [noticed] at h
  split_ifs at h
  · obtain rfl := List.mem_singleton.mp h
    trivial
  · cases h

/-- What is noticed of a runner's work is quiet. -/
theorem isQuiet_of_mem_noticed_runner {block : Block} {event : Event}
    (h : event ∈ noticed env (.runner block)) : event.IsQuiet := by
  rw [noticed] at h
  split_ifs at h
  · obtain rfl := List.mem_singleton.mp h
    trivial
  · cases h

/-- The last block that has begun before a failure is the one that fails. -/
theorem Goes.failsAt (hobserver : ∀ id, env.notices (.active id) = true) {outcome : Except Halt Unit}
    (h : Goes env stage w j outcome w') {error : RunError} (herror : outcome = .error (.failed error)) :
    FailsAt stage.own? error.block (noticedIn env j) := by
  induction h with
  | nil | stopped | event | zero | outOfPatience | pollEnds => cases herror
  | @halted block _ w _ _ _ _ _ ih =>
    have hbegin : noticed env (.event (.active (some block.id))) = [.active (some block.id)] :=
      if_pos (hobserver _)
    rw [noticedIn_cons, Environment.moment, hbegin]
    rcases ih herror with ⟨hid, hquiet⟩ | hinside
    · -- the block itself fails
      have hblock : block.id = error.block := Option.some.inj hid
      rw [hblock]
      exact .inr ⟨[], _, rfl, hquiet⟩
    · obtain ⟨before, after, hevents, hafter⟩ := hinside
      rw [hevents]
      exact .inr ⟨_ :: before, after, rfl, hafter⟩
  | next _ _ _ _ ihRest =>
    rw [noticedIn_cons, noticedIn_append, noticedIn_cons]
    simp only [← List.append_assoc]
    exact (ihRest herror).append _ _
  | @runner block w runner h =>
    refine .inl ⟨?_, fun event hevent => ?_⟩
    · cases hanswer : (runner w).1 with
      | ok =>
        rw [hanswer] at herror
        cases herror
      | error message =>
        rw [hanswer] at herror
        cases herror
        rfl
    · rw [noticedIn_cons] at hevent
      rcases List.mem_append.mp hevent with hmem | hmem
      · exact isQuiet_of_mem_noticed_runner hmem
      · cases hmem
  | children _ _ ih =>
    -- nothing stands before the blocks inside
    exact (ih herror).append _ []
  | poll h _ ih =>
    -- the block of the poll is the block that waits
    exact ih herror
  | fail h =>
    cases herror
    refine .inl ⟨congrArg some (block_of_course_fail h).symm, fun _ hevent => nomatch hevent⟩
  | timesHalted _ ih => exact ih herror
  | timesNext _ _ _ ihRest =>
    rw [noticedIn_append]
    exact (ihRest herror).append _ _
  | pollFails =>
    cases herror
    refine .inl ⟨rfl, fun event hevent => ?_⟩
    rw [noticedIn_cons] at hevent
    rcases List.mem_append.mp hevent with hmem | hmem
    · exact isQuiet_of_mem_noticed_sleep hmem
    · cases hmem
  | pollAgain _ _ _ ih =>
    rw [noticedIn_cons]
    rcases ih herror with ⟨hid, hquiet⟩ | ⟨before, after, hevents, hafter⟩
    · refine .inl ⟨hid, fun event hevent => ?_⟩
      rcases List.mem_append.mp hevent with hmem | hmem
      · exact isQuiet_of_mem_noticed_sleep hmem
      · exact hquiet event hmem
    · rw [hevents]
      exact .inr ⟨_ ++ before, after, (List.append_assoc _ _ _).symm, hafter⟩

/-- When the passes fail, the last block shown is the one the error names. -/
theorem GoesPasses.failsAt (hobserver : ∀ id, env.notices (.active id) = true) {blocks : List Block}
    {begun : Nat} {outcome : Except Halt Nat} (h : GoesPasses env blocks begun w j outcome w')
    {error : RunError} (herror : outcome = .error (.failed error)) :
    FailsAt none error.block (noticedIn env j) := by
  induction h with
  | empty | stopped | outOfPatience | last => cases herror
  | halted _ hblocks =>
    have hfails := hblocks.failsAt hobserver (congrArg _ (Except.error.inj herror))
    rw [noticedIn_cons]
    exact hfails.append _ _
  | next _ _ _ _ ih =>
    rw [noticedIn_cons, noticedIn_append, noticedIn_cons]
    simp only [← List.append_assoc]
    exact (ih herror).append _ _

/-- When a program fails, the last block shown is the one the error names. -/
theorem GoesProgram.failsAt (hobserver : ∀ id, env.notices (.active id) = true)
    {outcome : Except Halt RunSummary} (h : GoesProgram env p w j outcome w') {error : RunError}
    (herror : outcome = .error (.failed error)) : FailsAt none error.block (noticedIn env j) := by
  cases h with
  | onceHalted honce => exact honce.failsAt hobserver (congrArg _ (Except.error.inj herror))
  | foreverHalted _ hforever =>
    rw [noticedIn_append]
    exact (hforever.failsAt hobserver (congrArg _ (Except.error.inj herror))).append _ _
  | ends => cases herror

/-! ## Programs -/

/-- Blocks begin and end in a well-bracketed way through a run that ends. Through a run that fails they do so up
to the beginning of the block that fails; only sleeps and what a runner does follow, and then, as the last event
of the run, the word that no block is active. -/
theorem bracketed_of_execute (hobserver : ∀ id, env.notices (.active id) = true) (patience : Nat)
    (p : Program) (memory : σ) (running : Bool) (devices : Snapshot) {outcome : Except Halt RunSummary}
    (hrun : env.execute patience p (.start memory running devices) = (outcome, w')) :
    (∀ summary, outcome = .ok summary → Bracketed (roots p) (calls w'.events)) ∧
    ∀ error, outcome = .error (.failed error) → ∃ before after missing,
      w'.events = before ++ .active (some error.block) :: (after ++ [.active none]) ∧
      (∀ event ∈ after, event.IsQuiet) ∧
      Bracketed (roots p) (calls before ++ some error.block :: missing) := by
  have hgoes := env.goes_execute patience p (.start memory running devices)
  rw [hrun] at hgoes
  have hevents : w'.events = noticedIn env (env.journal patience p (.start memory running devices)) :=
    hgoes.events_eq
  -- from here on the run is looked at through its journal
  rw [hevents]
  generalize env.journal patience p (.start memory running devices) = j at hgoes
  constructor
  · rintro summary rfl
    cases hgoes with
    | ends hprogram =>
      obtain ⟨missing, hcalls, hnone⟩ := hprogram.bracketed hobserver
      obtain rfl := hnone summary rfl
      rwa [List.append_nil] at hcalls
  · rintro error rfl
    cases hgoes with
    | failed hprogram =>
      obtain ⟨missing, hcalls, -⟩ := hprogram.bracketed hobserver
      -- the call that ends every failed run comes behind the journal of the program
      have hlast : noticed env (.event (.active none)) = [.active none] := if_pos (hobserver none)
      rcases hprogram.failsAt hobserver rfl with ⟨hid, -⟩ | ⟨before, after, hsplit, hafter⟩
      · cases hid
      · refine ⟨before, after, calls after ++ missing, ?_, hafter, ?_⟩
        · rw [noticedIn_append, hsplit, noticedIn_cons, Environment.moment, hlast, List.append_assoc]
          rfl
        · rw [callsIn, hsplit, calls_append, List.append_assoc] at hcalls
          exact hcalls

/-- A runner that fails in the first round of a loop. -/
theorem bracketed_of_execute_jammedRunner :
    let p : Program := ⟨[.container "setup" none .once
      [.container "twice" none (.loop 2)
        [.statement "greet" none (.log (.text "hello")), .statement "horn" none (.alert (.text "tut"))]]]⟩
    let env : Environment Unit :=
      { tick := 1, maxPasses := none, notices := fun _ => true, react := fun _ w => ⟨(), w.devices, false⟩
        foreign? := fun block => if block.id = "horn" then some fun _ => .error "jammed" else none
        channel := none }
    let run := env.execute 1 p (.start () true .empty)
    run.1 = .error (.failed (.runner "horn" "jammed")) ∧ ∃ before after missing,
      run.2.events = before ++ .active (some "horn") :: (after ++ [.active none]) ∧
      (∀ event ∈ after, event.IsQuiet) ∧ Bracketed (roots p) (calls before ++ some "horn" :: missing) := by
  intro p env run
  have hobserver : ∀ id, env.notices (.active id) = true := fun _ => rfl
  -- the run fails at the horn, inside the first round of the loop
  have hrun : run = (.error (.failed (.runner "horn" "jammed")), run.2) := rfl
  refine ⟨congrArg Prod.fst hrun, ?_⟩
  exact (bracketed_of_execute hobserver 1 p () true .empty hrun).2 _ rfl

end Run

end Signalbox
