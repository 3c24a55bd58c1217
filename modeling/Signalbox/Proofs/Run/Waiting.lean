import Mathlib.Logic.Function.Iterate
import Mathlib.Order.Bounds.Defs
import Signalbox.Proofs.Condition.Grammar
import Signalbox.Proofs.Run.Journal

/-!
# Waits

A wait has no say in what happens while it sleeps: tick after tick the surroundings make of the world what they like.
So the worlds that a wait can come to are the same whatever its condition, and they are written down first, as
`Environment.afterTicks`. The condition only decides at which of them the wait ends: at the first one, from the first
tick on, that does not know its device, or in which it holds, or in which the run is to end.

Main results:

* `Run.poll_add`: polls that do not end a wait lead from one world to the next.
* `Run.runBlock_wait`: a wait ends at the first poll that allows it, and does nothing but sleep until then.
-/

namespace Signalbox

variable {σ : Type}

namespace Environment

/-- The world after a number of sleeps of one tick. -/
def afterTicks (env : Environment σ) (w : World σ) (count : Nat) : World σ :=
  (env.emit (.sleep env.tick))^[count] w

/-- A number of sleeps of one tick, as a journal. -/
def ticks (env : Environment σ) (w : World σ) (count : Nat) : Journal σ :=
  (List.range count).map fun n => env.moment (.sleep env.tick) (env.afterTicks w n)

theorem afterTicks_succ (env : Environment σ) (w : World σ) (count : Nat) :
    env.afterTicks w (count + 1) = env.emit (.sleep env.tick) (env.afterTicks w count) :=
  Function.iterate_succ_apply' _ count w

theorem ticks_succ (env : Environment σ) (w : World σ) (count : Nat) :
    env.ticks w (count + 1) = env.ticks w count ++ [env.moment (.sleep env.tick) (env.afterTicks w count)] := by
  rw [ticks, List.range_succ, List.map_append]
  rfl

end Environment

namespace Condition

/-- A poll in this world ends a wait: the device is missing, the condition holds, or the run is to end. -/
def EndsWait (c : Condition) (w : World σ) : Prop :=
  w.devices.get? c.device = none ∨ c.evaluate w.devices = .ok true ∨ w.running = false

/-- How a wait of a block ends at a poll that sees these devices: it fails when its own is not among them. -/
def waitEnd (c : Condition) (block : String) (s : Snapshot) : Except Halt Unit :=
  match s.get? c.device with
  | some _ => .ok ()
  | none => .error (.failed (.condition block (.unknownDevice c.device)))

end Condition

namespace Run

variable {env : Environment σ} {c : Condition} {block : String} {patience : Nat} {w : World σ} {j : Journal σ}

/-! ## Polls -/

/-- A poll sleeps and looks at the devices, and asks for the flag only if the condition does not hold. -/
theorem poll_succ (env : Environment σ) (block : String) (c : Condition) (patience : Nat) (w : World σ)
    (j : Journal σ) :
    poll env.journaling block c (patience + 1) (w, j) =
      let w₁ := env.emit (.sleep env.tick) w
      let j₁ := j ++ [env.moment (.sleep env.tick) w]
      match c.evaluate w₁.devices with
      | .error reason => (.error (.failed (.condition block reason)), w₁, j₁)
      | .ok true => (.ok (), w₁, j₁)
      | .ok false => if w₁.running then poll env.journaling block c patience (w₁, j₁) else (.ok (), w₁, j₁) := by
  rw [poll]
  show (match c.evaluate (env.emit (.sleep env.tick) w).devices with
    | .error reason => pure (.error (.failed (.condition block reason)))
    | .ok true => pure (.ok ())
    | .ok false => do
      if ← env.journaling.isRunning then poll env.journaling block c patience else pure (.ok ()) :
        StateM (World σ × Journal σ) (Except Halt Unit))
      (env.emit (.sleep env.tick) w, j ++ [env.moment (.sleep env.tick) w]) = _
  dsimp only
  generalize env.emit (.sleep env.tick) w = w₁
  -- one look at the devices after the tick, and the three ways to go on
  cases c.evaluate w₁.devices with
  | error reason => rfl
  | ok holds =>
    cases holds with
    | true => rfl
    | false =>
      show (if w₁.running then _ else _ : StateM (World σ × Journal σ) (Except Halt Unit)) _ = _
      cases w₁.running <;> rfl

/-- A wait ends after the tick at which its condition says so. -/
theorem poll_succ_of_endsWait (h : c.EndsWait (env.emit (.sleep env.tick) w)) :
    poll env.journaling block c (patience + 1) (w, j) =
      (c.waitEnd block (env.emit (.sleep env.tick) w).devices, env.emit (.sleep env.tick) w,
        j ++ [env.moment (.sleep env.tick) w]) := by
  rw [poll_succ]
  dsimp only
  unfold Condition.EndsWait at h
  generalize env.emit (.sleep env.tick) w = w₁ at h ⊢
  rw [Condition.waitEnd]
  cases hdevice : w₁.devices.get? c.device with
  | none => rw [Condition.evaluate_of_unknown hdevice]
  | some device =>
    rw [hdevice, Condition.evaluate_of_known hdevice] at h
    rw [Condition.evaluate_of_known hdevice]
    -- the device is there, so the condition holds or the flag is cleared
    cases hholds : c.operator.holds (device.numeric c.property) c.literal with
    | true => rfl
    | false =>
      have hstopped : w₁.running = false := by simpa [hholds] using h
      rw [hstopped]
      rfl

/-- A wait that does not end after a tick goes on as it began. -/
theorem poll_succ_of_not_endsWait (h : ¬ c.EndsWait (env.emit (.sleep env.tick) w)) :
    poll env.journaling block c (patience + 1) (w, j) =
      poll env.journaling block c patience
        (env.emit (.sleep env.tick) w, j ++ [env.moment (.sleep env.tick) w]) := by
  rw [poll_succ]
  dsimp only
  unfold Condition.EndsWait at h
  generalize env.emit (.sleep env.tick) w = w₁ at h ⊢
  push Not at h
  obtain ⟨hdevice, hfalse, hrunning⟩ := h
  obtain ⟨device, hdevice⟩ := Option.ne_none_iff_exists'.mp hdevice
  rw [Condition.evaluate_of_known hdevice] at hfalse ⊢
  have hholds : c.operator.holds (device.numeric c.property) c.literal = false := by simpa using hfalse
  rw [hholds]
  exact if_pos (by simpa using hrunning)

/-- Polls that do not end a wait lead from one world to the next, and write down a sleep each. -/
theorem poll_add {count : Nat} (h : ∀ n, 1 ≤ n → n ≤ count → ¬ c.EndsWait (env.afterTicks w n)) (patience : Nat) :
    poll env.journaling block c (count + patience) (w, j) =
      poll env.journaling block c patience (env.afterTicks w count, j ++ env.ticks w count) := by
  induction count generalizing patience with
  | zero =>
    rw [Nat.zero_add]
    show _ = poll env.journaling block c patience (w, j ++ [])
    rw [List.append_nil]
  | succ count ih =>
    have hlast := h (count + 1) (by omega) le_rfl
    rw [Environment.afterTicks_succ] at hlast
    rw [Nat.add_assoc, Nat.add_comm 1 patience, ih fun n hfirst hn => h n hfirst (by omega),
      poll_succ_of_not_endsWait hlast, Environment.afterTicks_succ, Environment.ticks_succ, List.append_assoc]

/-- As long as no poll ends the wait, it is out of patience. -/
theorem poll_of_not_endsWait (h : ∀ n, 1 ≤ n → n ≤ patience → ¬ c.EndsWait (env.afterTicks w n)) :
    poll env.journaling block c patience (w, j) =
      (.error .outOfPatience, env.afterTicks w patience, j ++ env.ticks w patience) :=
  poll_add h 0

/-- The first poll that ends the wait is the last one. -/
theorem poll_of_isLeast {k : Nat} (h : IsLeast {n | 1 ≤ n ∧ c.EndsWait (env.afterTicks w n)} k) (hk : k ≤ patience) :
    poll env.journaling block c patience (w, j) =
      (c.waitEnd block (env.afterTicks w k).devices, env.afterTicks w k, j ++ env.ticks w k) := by
  obtain ⟨⟨hpos, hends⟩, hleast⟩ := h
  -- the polls before it, it, and the patience that is left
  obtain ⟨before, rfl⟩ : ∃ before, k = before + 1 := ⟨k - 1, by omega⟩
  obtain ⟨left, rfl⟩ : ∃ left, patience = before + (left + 1) := ⟨patience - (before + 1), by omega⟩
  have hbefore : ∀ n, 1 ≤ n → n ≤ before → ¬ c.EndsWait (env.afterTicks w n) := by
    intro n hfirst hn hend
    have hle : before + 1 ≤ n := hleast ⟨hfirst, hend⟩
    omega
  rw [Environment.afterTicks_succ] at hends
  rw [poll_add hbefore, poll_succ_of_endsWait hends, Environment.afterTicks_succ, Environment.ticks_succ,
    List.append_assoc]

/-! ## Blocks -/

/-- A run of a block in a world has an outcome and leaves a world, and a journal says what it does on the way. -/
structure Does (env : Environment σ) (patience : Nat) (block : Block) (w : World σ) (j : Journal σ)
    (outcome : Except Halt Unit) (w' : World σ) : Prop where
  run : runBlock env.host patience block w = (outcome, w')
  journal : ∀ earlier, runBlock env.journaling patience block (w, earlier) = (outcome, w', earlier ++ j)

/-- A run that keeps a journal is the run itself. -/
theorem Does.of_journal {block : Block} {outcome : Except Halt Unit} {w' : World σ}
    (h : ∀ earlier, runBlock env.journaling patience block (w, earlier) = (outcome, w', earlier ++ j)) :
    Does env patience block w j outcome w' := by
  obtain ⟨new, hsame, -⟩ := journaled_runBlock (journaled_runBlocks env patience block.children) w []
  rw [h] at hsame
  obtain ⟨houtcome, hrest⟩ := Prod.mk.inj hsame
  exact ⟨Prod.ext houtcome.symm (Prod.mk.inj hrest).1.symm, h⟩

/-- A statement that the surroundings do nothing for has its own meaning. -/
theorem runBlock_statement {id : String} {position : Option Position} {kind : StatementKind}
    (hrunner : env.runner? (.statement id position kind) = none) (patience : Nat) :
    runBlock env.journaling patience (.statement id position kind) =
      runStatement env.journaling patience id kind := by
  have hjournaling : env.journaling.runner? (.statement id position kind) = none := by
    show (env.runner? _).map _ = none
    rw [hrunner]
    rfl
  rw [runBlock, hjournaling]

/-- A wait whose condition can be read does nothing but sleep, a tick at a time, up to the first poll, from the first
tick on, that does not know its device, or finds the condition to hold, or finds the flag cleared. Without the device it
fails, and otherwise it is done. If there is no such poll, it still sleeps when the run is out of patience. A wait whose
condition cannot be read fails at once, and does not sleep. -/
theorem runBlock_wait {id text : String} {position : Option Position}
    (hrunner : env.runner? (.statement id position (.wait text)) = none) (patience : Nat) (w : World σ) :
    (∀ c, Condition.read text = .ok c →
      (∀ k, IsLeast {n | 1 ≤ n ∧ c.EndsWait (env.afterTicks w n)} k → k ≤ patience →
        Does env patience (.statement id position (.wait text)) w (env.ticks w k)
          (c.waitEnd id (env.afterTicks w k).devices) (env.afterTicks w k)) ∧
      ((∀ n, 1 ≤ n → n ≤ patience → ¬ c.EndsWait (env.afterTicks w n)) →
        Does env patience (.statement id position (.wait text)) w (env.ticks w patience) (.error .outOfPatience)
          (env.afterTicks w patience))) ∧
    ∀ reason, Condition.read text = .error reason → reason = .unreadable text ∧
      Does env patience (.statement id position (.wait text)) w []
        (.error (.failed (.condition id (.unreadable text)))) w := by
  refine ⟨fun c hread => ⟨fun k hk hpatience => .of_journal fun earlier => ?_, fun hnever =>
    .of_journal fun earlier => ?_⟩, fun reason hread => ?_⟩
  · rw [runBlock_statement hrunner, runStatement, hread]
    exact poll_of_isLeast hk hpatience
  · rw [runBlock_statement hrunner, runStatement, hread]
    exact poll_of_not_endsWait hnever
  · obtain rfl := Condition.eq_unreadable_of_read hread
    refine ⟨rfl, .of_journal fun earlier => ?_⟩
    rw [runBlock_statement hrunner, runStatement, hread, List.append_nil]
    rfl

/-- The speed is too low at the first poll, unknown at the second, and high enough at the third. -/
theorem runBlock_wait_lateSpeed :
    let devices : Nat → Snapshot := fun count =>
      match count with
      | 0 | 1 => ⟨⟨[("AB12", ⟨"AB12", ⟨[("speed", .num (.int 400))]⟩⟩)]⟩⟩
      | 2 => ⟨⟨[("AB12", ⟨"AB12", ⟨[("light", .bool true)]⟩⟩)]⟩⟩
      | _ => ⟨⟨[("AB12", ⟨"AB12", ⟨[("speed", .num (.int 600))]⟩⟩)]⟩⟩
    let env : Environment Nat :=
      { tick := 10, maxPasses := none, notices := fun _ => true
        react := fun _ w => ⟨w.memory + 1, devices (w.memory + 1), false⟩
        foreign? := fun _ => none, channel := none }
    let block : Block := .statement "w" none (.wait "AB12:speed >= 500")
    let c : Condition := ⟨"AB12", "speed", .ge, (500 : Nat).toFloat⟩
    let w : World Nat := .start 0 true (devices 0)
    (env.runner? block = none ∧ Condition.read "AB12:speed >= 500" = .ok c ∧
      IsLeast {n | 1 ≤ n ∧ c.EndsWait (env.afterTicks w n)} 3) ∧
      Does env 5 block w (env.ticks w 3) (.ok ()) (env.afterTicks w 3) := by
  intro devices env block c w
  have hread : Condition.read "AB12:speed >= 500" = .ok c := rfl
  -- the speed is too low, then unknown, then high enough
  have hfirst : c.evaluate (env.afterTicks w 1).devices = .ok false := by decide +kernel
  have hsecond : c.evaluate (env.afterTicks w 2).devices = .ok false := by decide +kernel
  have hthird : c.evaluate (env.afterTicks w 3).devices = .ok true := by decide +kernel
  have hleast : IsLeast {n | 1 ≤ n ∧ c.EndsWait (env.afterTicks w n)} 3 := by
    refine ⟨⟨by decide, .inr (.inl hthird)⟩, fun n hn => ?_⟩
    obtain ⟨hpos, hends⟩ := hn
    by_contra hlt
    obtain rfl | rfl : n = 1 ∨ n = 2 := by omega
    · rw [Condition.EndsWait, hfirst] at hends
      rcases hends with h | h | h <;> cases h
    · rw [Condition.EndsWait, hsecond] at hends
      rcases hends with h | h | h <;> cases h
  exact ⟨⟨rfl, hread, hleast⟩, ((runBlock_wait rfl 5 w).1 c hread).1 3 hleast (by decide)⟩

end Run

end Signalbox
