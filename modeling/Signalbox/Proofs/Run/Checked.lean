import Signalbox.Proofs.Program.Rules
import Signalbox.Proofs.Run.Failure

/-!
# Runs of checked programs

A program without problems can only fail for a reason that the check cannot see: a device that a condition
names is not known at the moment. Of the four reasons why runs fail the other three are gone. Every condition
can be read, the writes of device-set blocks go into an open channel, and a block that has no meaning inside
another block does not stand inside one.

Main result:

* `execute_of_problems_eq_nil`: what a run of a program without problems can fail with.
-/

namespace Signalbox

variable {σ : Type}

/-- The condition of a block names a device. -/
def Block.Names (block : Block) (device : String) : Prop :=
  ∃ text c, block.condition? = some text ∧ Condition.read text = .ok c ∧ c.device = device

/-- The error of an if or a wait whose condition names a device that the snapshot read last does not know. -/
def Program.LacksDevice (p : Program) (error : RunError) (reads : List Snapshot) : Prop :=
  ∃ block device s earlier, p.find? error.block = some block ∧
    (block.type = .branch ∨ block.type = .wait) ∧ block.Names device ∧
    error = .condition block.id (.unknownDevice device) ∧ reads = s :: earlier ∧ s.get? device = none

namespace Program

variable {p : Program}

/-- A program without problems keeps the rules. -/
theorem valid_of_problems_eq_nil (h : p.problems = []) : p.Valid := by
  obtain ⟨hviolations, -⟩ := List.append_eq_nil_iff.mp h
  exact p.violations_eq_nil_iff.mp (List.map_eq_nil_iff.mp hviolations)

/-- Every condition of a program without problems can be read. -/
theorem exists_read_of_problems_eq_nil (h : p.problems = []) {block : Block} (hblock : block ∈ p.preorder)
    {text : String} (htext : block.condition? = some text) : ∃ c, Condition.read text = .ok c := by
  obtain ⟨-, hconditions⟩ := List.append_eq_nil_iff.mp h
  have hall := List.map_eq_nil_iff.mp hconditions
  rw [Block.conditionProblemsIn_eq_flatMap_preorderIn, List.flatMap_eq_nil_iff] at hall
  -- the problem of the block itself is among those of the program
  have hown : block.ownProblem = [] := hall block hblock
  rw [Block.ownProblem, htext] at hown
  cases hread : Condition.read text with
  | ok c => exact ⟨c, rfl⟩
  | error reason => simp [hread] at hown

end Program

namespace Run

variable {p : Program} {block : Block}

theorem mem_preorder_of_mem_reached (h : block ∈ reached p) : block ∈ p.preorder := by
  rcases List.mem_append.mp h with h | h <;> exact childrenOf_subset p _ h

/-- A block that a run can reach is a nested one. -/
theorem node_mem_of_mem_reached (h : block ∈ reached p) : block.node true ∈ p.nodes := by
  -- what is inside one of the two containers is nested
  have hchildren (type : BlockType) (hblock : block ∈ Block.preorderIn (childrenOf p type)) :
      block.node true ∈ p.nodes := by
    have hnode := List.mem_map_of_mem (f := Block.node true) hblock
    rw [← Block.nodesIn_true_eq_map_preorderIn, childrenOf] at hnode
    split at hnode
    next top hfirst => exact Block.nodesIn_children_subset (List.mem_of_find?_eq_some hfirst) hnode
    next => exact absurd hnode List.not_mem_nil
  rcases List.mem_append.mp h with h | h <;> exact hchildren _ h

/-- Among the blocks that a run of a valid program comes to, all but device-set blocks have a meaning of
their own. -/
theorem type_eq_deviceSet_of_mem_reached (hvalid : p.Valid) (h : block ∈ reached p)
    (htype : block.type ∈ [.once, .forever, .deviceSet, .dummy]) : block.type = .deviceSet := by
  have hplaced : (block.node true).WellPlaced := hvalid.placed _ (node_mem_of_mem_reached h)
  -- a nested block is no top-level block and no dummy
  have hnot : ¬ (block.type.isTopLevel = true ∨ block.type = .dummy) := by
    intro hor
    rw [← Block.type_own] at hor
    exact Bool.false_ne_true (hplaced.mpr hor).symm
  simp only [List.mem_cons, List.not_mem_nil, or_false] at htype
  rcases htype with htype | htype | htype | htype
  · exact absurd (Or.inl (by rw [htype]; rfl)) hnot
  · exact absurd (Or.inl (by rw [htype]; rfl)) hnot
  · exact htype
  · exact absurd (Or.inr htype) hnot

end Run

namespace Environment

variable {env : Environment σ} {channel : Channel} {block : Block}

/-- With no foreign runners and an open channel no runner fails. -/
theorem ok_of_runner?_eq_some (hforeign : ∀ block, env.foreign? block = none)
    (hchannel : env.channel = some channel) (hopen : channel.isOpen = true)
    {runner : StateM (World σ) (Except String Unit)} (h : env.runner? block = some runner) (w : World σ) :
    (runner w).1 = .ok () := by
  rw [runner?, hforeign, hchannel] at h
  cases hcommand : DeviceCommand.ofBlock? block with
  | none => rw [hcommand] at h; exact nomatch h
  | some command =>
    rw [hcommand] at h
    obtain rfl := Option.some.inj h
    rw [deliver, takes, hopen]
    rfl

/-- With a channel every block that sets a device has a runner. -/
theorem runner?_ne_none (hforeign : ∀ block, env.foreign? block = none)
    (hchannel : env.channel = some channel) (htype : block.type = .deviceSet) :
    env.runner? block ≠ none := by
  rw [runner?, hforeign, hchannel]
  rcases block with ⟨id, position, kind, children⟩ | ⟨id, position, kind⟩ <;> cases kind <;>
    first | exact Option.some_ne_none _ | exact nomatch htype

end Environment

/-- Only branches and waits have a condition. -/
theorem type_of_condition?_eq_some {block : Block} {text : String} (h : block.condition? = some text) :
    block.type = .branch ∨ block.type = .wait := by
  rcases block with ⟨id, position, kind, children⟩ | ⟨id, position, kind⟩ <;> cases kind <;>
    first | exact Or.inl rfl | exact Or.inr rfl | exact nomatch h

/-- Of the causes of failed runs only one is left for a program without problems. -/
theorem Run.Cause.lacksDevice {p : Program} (hp : p.problems = []) {env : Environment σ} {channel : Channel}
    (hforeign : ∀ block, env.foreign? block = none) (hchannel : env.channel = some channel)
    (hopen : channel.isOpen = true) {host : Host (StateM (World σ))} (hhost : host.runner? = env.runner?)
    {block : Block} {error : RunError} {reads : List Snapshot} (hreached : block ∈ Run.reached p)
    (hcause : Run.Cause host block error reads) : p.LacksDevice error reads := by
  have hvalid := p.valid_of_problems_eq_nil hp
  have hmem := Run.mem_preorder_of_mem_reached hreached
  -- of the four causes, the checks have excluded all but an unknown device
  cases hcause with
  | unreadable _ htext hread =>
    obtain ⟨c, hok⟩ := Program.exists_read_of_problems_eq_nil hp hmem htext
    rw [hok] at hread
    exact nomatch hread
  | unknownDevice earlier htext hread hdevice =>
    exact ⟨block, _, _, earlier, Program.find?_eq_some_of_mem hvalid.ids_nodup hmem,
      type_of_condition?_eq_some htext, ⟨_, _, htext, hread, rfl⟩, rfl, rfl, hdevice⟩
  | runner _ hrunner hfails =>
    rw [hhost] at hrunner
    rw [Environment.ok_of_runner?_eq_some hforeign hchannel hopen hrunner] at hfails
    exact nomatch hfails
  | unknownType _ hrunner htype =>
    rw [hhost] at hrunner
    have hset := Run.type_eq_deviceSet_of_mem_reached hvalid hreached htype
    exact absurd hrunner (Environment.runner?_ne_none hforeign hchannel hset)

/-- A program without problems, run with an open channel and no other runner, fails only where the condition
of an if or a wait names a device that the snapshot it is checked against does not know. So it does not fail
at all if the snapshots that it reads know every device. Apart from the runners the surroundings are
arbitrary. -/
theorem execute_of_problems_eq_nil {p : Program} (hp : p.problems = []) {env : Environment σ}
    {channel : Channel} (hforeign : ∀ block, env.foreign? block = none)
    (hchannel : env.channel = some channel) (hopen : channel.isOpen = true)
    (host : Host (StateM (World σ))) (hhost : host.runner? = env.runner?) (patience : Nat) (w : World σ) :
    (∀ error, (Run.execute host patience p w).1 = .error (.failed error) →
      p.LacksDevice error (Run.reads host patience p w)) ∧
    ((∀ block ∈ p.preorder, ∀ device, block.Names device →
        ∀ s ∈ Run.reads host patience p w, s.get? device ≠ none) →
      ∀ error, (Run.execute host patience p w).1 ≠ .error (.failed error)) := by
  have hfail : ∀ error, (Run.execute host patience p w).1 = .error (.failed error) →
      p.LacksDevice error (Run.reads host patience p w) := by
    intro error herror
    obtain ⟨block, hreached, hcause⟩ := Run.cause_of_execute herror
    exact hcause.lacksDevice hp hforeign hchannel hopen hhost hreached
  refine ⟨hfail, fun hknown error herror => ?_⟩
  obtain ⟨block, device, s, earlier, hfind, -, hnames, -, hreads, hdevice⟩ := hfail error herror
  -- the block and the snapshot of the failure are among those of the assumption
  have hmem : block ∈ p.preorder := by
    rw [Program.find?, Block.findIn?_eq_find?_preorderIn] at hfind
    exact List.mem_of_find?_eq_some hfind
  have hread : s ∈ Run.reads host patience p w := by
    rw [hreads]
    exact List.mem_cons_self
  exact hknown block hmem device hnames s hread hdevice

/-- A condition with a write behind it, run with a simulating channel. -/
theorem execute_of_problems_eq_nil_guardedWrite :
    let p : Program := ⟨[.container "setup" none .once
      [.container "i" none (.branch "AB12:speed > 1")
        [.statement "d" none (.deviceSet "AB12" "speed" (.number (.int 3)))]]]⟩
    let env : Environment Unit :=
      { tick := 1, maxPasses := some 2, notices := fun _ => true, react := fun _ w => ⟨(), w.devices, false⟩
        foreign? := fun _ => none, channel := some ⟨true, true⟩ }
    p.problems = [] ∧ ∀ patience w error, (env.execute patience p w).1 = .error (.failed error) →
      p.LacksDevice error (Run.reads env.host patience p w) := by
  intro p env
  have hp : p.problems = [] := by decide
  have hforeign : ∀ block, env.foreign? block = none := fun _ => rfl
  refine ⟨hp, fun patience w => ?_⟩
  exact (execute_of_problems_eq_nil hp hforeign rfl rfl env.host rfl patience w).1

end Signalbox
