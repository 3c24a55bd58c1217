import Signalbox.Proofs.CommandLine.Saved
import Signalbox.Proofs.Editor.Gesture

/-!
# Programs that commands do not save

The two commands that edit a stored program are all or nothing. A move has split its blocks off by the time it is
refused or finds no place for them, but this is in memory alone: either the command saves the program that it put
together, or the file of the program is as it was. That goes for a disk that refuses to write as well, since a program
is written to a second file before it takes the place of the first one.

Main results:

* `Program.move_ne_nothing`: what was split off is found again.
* `Station.fails_addBlock` / `Station.fails_moveBlock`: the file after a command that failed.
* `saves_or_keeps_of_perform`: the file after a command.
-/

namespace Signalbox

/-- A move finds the blocks that it has split off, on every tree. -/
theorem Program.move_ne_nothing (p : Program) (block onto name : String) (snap : SnapType) :
    p.move block onto snap ≠ .error (.nothing name) := by
  unfold move
  split_ifs
  swap
  · exact nofun
  dsimp only
  cases hsplit : (Diagram.ofProgram p defaultSpawnPosition).split block
      (((p.find? block).bind (·.position)).getD ⟨0, 0⟩) with
  | mk answer d =>
    cases answer with
    | error e => exact nofun
    | ok dummy =>
      -- the dummy that holds the blocks is there when they are committed
      have hheld := Diagram.dummyFor?_split (congrArg Prod.fst hsplit)
      rw [hsplit] at hheld
      have hcommit : (d.commit onto snap block).1 ≠ .nothingToCommit := Diagram.commit_ne_nothingToCommit hheld
      dsimp only
      cases houtcome : d.commit onto snap block with
      | mk outcome d' =>
        rw [houtcome] at hcommit
        cases outcome with
        | nothingToCommit => exact absurd rfl hcommit
        | committed | floating | rejected => exact nofun

namespace CommandLine

/-- A step of a command that edits the program in a file has failed. -/
structure KeepsFile (path : String) (saves : Prop) (before : FileTree) (f : Failure) (b' : Bench) : Prop where
  /-- It did not fail for want of something to move. -/
  cause_ne : ∀ block, f.cause ≠ .ofMove (.nothing block)
  /-- If there was a program to save, the disk has refused to save it. -/
  refused : saves → ∃ place refusal, f.cause = .program (.disk place refusal)
  /-- The file is as it was. -/
  read_eq : b'.tree.read path = before.read path

namespace Station

variable {b : Bench} {place : ConfigPlace} {numbers : Nat → Nat} {patience : Nat} {mode : OutputMode} {path : String}
  {saves : Prop}

/-! ## Steps that fail -/

/-- A refusal touches nothing, and there was no program to save. -/
theorem keepsFile_of_refuse {code : ExitCode} {message : String} (hsaves : ¬ saves) :
    KeepsFile path saves b.tree (refuse code message) b :=
  ⟨fun _ => nofun, fun h => absurd h hsaves, rfl⟩

/-- A configuration that is needed is missing. -/
theorem fails_config {config : Except ConfigError Config} (hsaves : saves → ∃ c, config = .ok c) :
    Fails (liftM (requireConfig config)) b (KeepsFile path saves b.tree) := by
  cases config with
  | ok c => exact Fails.of_except fun _ h => nomatch h
  | error e =>
    refine Fails.throw (keepsFile_of_refuse fun h => ?_)
    obtain ⟨c, hc⟩ := hsaves h
    cases hc

/-- The program in the file cannot be loaded. -/
theorem fails_load (hsaves : saves → ∃ p, (Program.load Bench.disk path b).1 = .ok p) :
    Fails (attempt .program (Program.load Bench.disk path)) b (KeepsFile path saves b.tree) := by
  refine Fails.attempt fun e he => ⟨fun _ => nofun, fun h => ?_, ?_⟩
  · obtain ⟨p, hp⟩ := hsaves h
    cases hp.symm.trans he
  · rw [Bench.load_eq]

/-- A field of the new block is missing. -/
theorem fails_kind {fields : NewFields} {type : BlockType} (hsaves : saves → ∃ kind, fields.kind type = .ok kind) :
    Fails (liftM (fields.kind type)) b (KeepsFile path saves b.tree) := by
  refine Fails.of_except fun f h => ?_
  obtain ⟨message, rfl⟩ := eq_refuse_of_kind h
  refine keepsFile_of_refuse fun hs => ?_
  obtain ⟨kind, hkind⟩ := hsaves hs
  cases hkind.symm.trans h

/-- The blocks have been split off in memory by now, and the move is refused or finds no place for them. -/
theorem fails_move {p : Program} {block onto : String} {snap : SnapType}
    (hsaves : saves → ∃ result, p.move block onto snap = .ok result) :
    Fails (liftM (orFail Cause.ofMove (p.move block onto snap))) b (KeepsFile path saves b.tree) := by
  refine Fails.of_except fun f h => ?_
  cases hmove : p.move block onto snap with
  | ok result =>
    rw [hmove] at h
    cases h
  | error e =>
    rw [hmove] at h
    obtain rfl := Except.error.inj h
    -- the move has failed before anything was written
    refine ⟨fun name hnothing => ?_, fun hs => ?_, rfl⟩
    · cases e with
      | nothing name' => exact p.move_ne_nothing block onto name' snap hmove
      | edit | rejected | noAnchor => cases hnothing
    · obtain ⟨result, hresult⟩ := hsaves hs
      cases hresult.symm.trans hmove

/-- A program that cannot be saved to a file that could be read. -/
theorem fails_save_result {stored text : String} {json : Json} (p : Program)
    (hread : b.tree.read path = .ok stored) :
    Fails (do
      attempt .program (p.save Bench.disk path)
      liftM (Bench.console.result mode json text)) b (KeepsFile path saves b.tree) := by
  -- only saving can fail, since the result is written without fail
  refine Fails.bind (Fails.attempt fun e he => ⟨fun _ => nofun, fun _ => ?_, ?_⟩) (Leads.attempt code_program_ne _)
    fun _ _ _ => Fails.of_action _
  · obtain ⟨place, refusal, rfl⟩ := Bench.disk_of_save_eq_error he
    exact ⟨place, refusal, rfl⟩
  · rw [hread]
    exact Bench.read_of_save_eq_error he hread

/-! ## Commands that fail -/

/-- When an addition fails, the file is as it was. -/
theorem fails_addBlock (config : Except ConfigError Config) (path : String) (type : BlockType)
    (fields : NewFields) :
    Fails ((Bench.station place numbers patience).addBlock mode config path type fields) b
      (KeepsFile path (∃ q, Command.Saves numbers config b (.add path type fields) q) b.tree) := by
  -- what there is to save tells that each step before the saving succeeds
  have hsteps : (∃ q, Command.Saves numbers config b (.add path type fields) q) →
      (∃ c, config = .ok c) ∧ type ≠ .dummy ∧ (∃ p, (Program.load Bench.disk path b).1 = .ok p) ∧
        ∃ kind, fields.kind type = .ok kind := by
    rintro ⟨_, ⟨hconfig, hdummy, hload, hkind⟩⟩
    exact ⟨⟨_, hconfig⟩, hdummy, ⟨_, hload⟩, ⟨_, hkind⟩⟩
  unfold addBlock
  refine (fails_config fun h => (hsteps h).1).bind (leads_config config) ?_
  rintro c b ⟨-, rfl⟩
  dsimp only
  split_ifs with hdummy
  · exact Fails.throw (keepsFile_of_refuse fun h => (hsteps h).2.1 hdummy)
  refine (fails_load fun h => (hsteps h).2.2.1).bind (leads_load path) ?_
  rintro p b ⟨hload, rfl⟩
  obtain ⟨stored, hread, -⟩ := Bench.load_eq_ok_iff.mp hload
  -- the program has been loaded, so that its file can be read
  refine (fails_kind fun h => (hsteps h).2.2.2).bind (Leads.of_except fun f => code_of_kind) ?_
  rintro kind b ⟨-, rfl⟩
  refine (Fails.of_action _).bind (Leads.of_action _) ?_
  intro drawn b₁ hdraw
  obtain ⟨rfl, rfl⟩ := Prod.mk.inj hdraw
  -- a draw does not touch the files
  exact fails_save_result _ hread

/-- When a move fails, the file is as it was. -/
theorem fails_moveBlock (config : Except ConfigError Config) (path block onto : String) (snap : SnapType) :
    Fails ((Bench.station place numbers patience).moveBlock mode path block onto snap) b
      (KeepsFile path (∃ q, Command.Saves numbers config b (.move path block onto snap) q) b.tree) := by
  have hsteps : (∃ q, Command.Saves numbers config b (.move path block onto snap) q) →
      ∃ p, (Program.load Bench.disk path b).1 = .ok p ∧ ∃ result, p.move block onto snap = .ok result := by
    rintro ⟨q, hsaves⟩
    obtain ⟨p, placement, hload, hmove⟩ := Command.saves_move_iff.mp hsaves
    exact ⟨p, hload, _, hmove⟩
  unfold moveBlock
  refine (fails_load fun h => (hsteps h).imp fun _ => And.left).bind (leads_load path) ?_
  rintro p b ⟨hload, rfl⟩
  obtain ⟨stored, hread, -⟩ := Bench.load_eq_ok_iff.mp hload
  -- what there is to save comes from the program that was loaded
  have hmoves (h : ∃ q, Command.Saves numbers config b (.move path block onto snap) q) :
      ∃ result, p.move block onto snap = .ok result := by
    obtain ⟨p', hload', hmove⟩ := hsteps h
    obtain rfl := Except.ok.inj (hload.symm.trans hload')
    exact hmove
  refine (fails_move hmoves).bind (leads_move p block onto snap) ?_
  rintro ⟨placement, q⟩ b ⟨-, rfl⟩
  exact fails_save_result q hread

/-- When a command that edits a program fails, the file is as it was. -/
theorem fails_execute {inv : Invocation} {path : String} (hedited : inv.command.edited? = some path)
    (config : Except ConfigError Config) :
    Fails ((Bench.station place numbers patience).execute inv mode config) b
      (KeepsFile path (∃ q, inv.command.Saves numbers config b q) b.tree) := by
  unfold execute
  cases hcommand : inv.command with
  | add path' type fields =>
    rw [hcommand] at hedited
    obtain rfl := Option.some.inj hedited
    exact fails_addBlock config path' type fields
  | move path' block onto snap =>
    rw [hcommand] at hedited
    obtain rfl := Option.some.inj hedited
    exact fails_moveBlock config path' block onto snap
  | _ =>
    rw [hcommand] at hedited
    cases hedited

end Station

/-! ## Commands that are all or nothing -/

/-- An invocation whose command edits a program either succeeds, and the file of the program holds what the command put
together, for a move the program in which the blocks were split off and committed. Or it fails with an exit code that
tells so, and the file is as it was. It does not fail for want of something to move, and when there was a program to
save, it fails only because the disk refused to save it. The command finds the file as it was before the invocation,
unless the default configuration was written in its place.

The output and the error output take what is written to them. -/
theorem saves_or_keeps_of_perform (place : ConfigPlace) (numbers : Nat → Nat) (patience : Nat) {inv : Invocation}
    {path : String} (hedited : inv.command.edited? = some path) (b : Bench) :
    let station := Bench.station place numbers patience
    let start := Config.load Bench.disk place inv.config b
    let outcome := ((station.execute inv (.ofFlags inv.json inv.quiet) start.1).run start.2).1
    let result := station.perform inv b
    ((outcome = .ok () ∧ result.1 = 0 ∧
        ∃ q, inv.command.Saves numbers start.1 start.2 q ∧ result.2.tree.read path = .ok q.write) ∨
      ∃ f, outcome = .error f ∧ result.1 = f.code ∧ f.code ≠ 0 ∧ (∀ block, f.cause ≠ .ofMove (.nothing block)) ∧
        (∀ q, inv.command.Saves numbers start.1 start.2 q →
          ∃ refused refusal, f.cause = .program (.disk refused refusal)) ∧
        result.2.tree.read path = start.2.tree.read path) ∧
    ∀ text, b.tree.read path = .ok text → start.2.tree.read path = .ok text ∨
      Bench.PutsConfig place inv.config path b.tree start.2.tree := by
  intro station start outcome result
  refine ⟨?_, fun text hread => Bench.read_load_config place inv.config hread⟩
  have hleads : Leads (station.execute inv (.ofFlags inv.json inv.quiet) start.1) start.2 _ :=
    Station.leads_execute hedited start.1
  have hfails : Fails (station.execute inv (.ofFlags inv.json inv.quiet) start.1) start.2 _ :=
    Station.fails_execute hedited start.1
  -- the outcome of the command decides the exit code, and a failure is written to the streams alone
  cases hrun : (station.execute inv (.ofFlags inv.json inv.quiet) start.1).run start.2 with
  | mk answer b' =>
    have houtcome : outcome = answer := congrArg Prod.fst hrun
    cases answer with
    | ok a =>
      have hresult : result = (ExitCode.success.toInt, b') := perform_of_ok rfl hrun
      rw [hresult]
      exact .inl ⟨houtcome, rfl, hleads.of_ok hrun⟩
    | error f =>
      have hresult : result = (f.code, (Bench.console.failure (.ofFlags inv.json inv.quiet) f b').2) :=
        perform_of_error rfl hrun
      obtain ⟨hnothing, hrefused, hkept⟩ := hfails f houtcome
      rw [hrun] at hkept
      rw [hresult, Bench.tree_failure]
      exact .inr ⟨f, houtcome, rfl, hleads.of_error hrun, hnothing, fun q hq => hrefused ⟨q, hq⟩, hkept⟩

/-- A program with two log blocks in a once container. -/
def twoLogs : Bench :=
  .ofTree ⟨[(["program.json"], .file ("[\x7b\"id\":\"setup\",\"type\":\"once\",\"children\":[" ++
    "\x7b\"id\":\"a\",\"type\":\"log\"\x7d,\x7b\"id\":\"b\",\"type\":\"log\"\x7d]\x7d]"))]⟩

/-- Moves the second log block into another block, without a configuration. -/
def moveInto (onto : String) : Invocation :=
  { config := some "config.json", json := false, quiet := false, verbose := false
    command := .move "program.json" "b" onto .inner }

/-- The file of that program when the second log block has become the first one in the once container. -/
def twoLogsSwapped : String :=
  "[\n  \x7b\n    \"id\": \"setup\",\n    \"type\": \"once\",\n    \"children\": [\n" ++
    "      \x7b\n        \"id\": \"b\",\n        \"type\": \"log\",\n        \"value\": \"\"\n      \x7d,\n" ++
    "      \x7b\n        \"id\": \"a\",\n        \"type\": \"log\",\n        \"value\": \"\"\n      \x7d\n" ++
    "    ]\n  \x7d\n]"

theorem perform_moveInto_setup :
    ((Bench.station ⟨none, none⟩ id 0).perform (moveInto "setup") twoLogs).1 = 0 ∧
      ((Bench.station ⟨none, none⟩ id 0).perform (moveInto "setup") twoLogs).2.tree.read "program.json" =
        .ok twoLogsSwapped := by
  decide +kernel

theorem perform_moveInto_log :
    ((Bench.station ⟨none, none⟩ id 0).perform (moveInto "a") twoLogs).1 = 2 ∧
      ((Bench.station ⟨none, none⟩ id 0).perform (moveInto "a") twoLogs).2.err =
        "Error: a has no inner snap point for b\n" := by
  decide +kernel

/-- A move into the once container is committed, and the file holds the program in which it was. A move into a log
block, which takes nothing in, fails when the block has been split off, and the file is as it was. -/
theorem saves_or_keeps_of_perform_moveInto :
    (∀ onto, (moveInto onto).command.edited? = some "program.json") ∧
      (((Bench.station ⟨none, none⟩ id 0).perform (moveInto "setup") twoLogs).1 = 0 ∧
        ∃ q, (moveInto "setup").command.Saves id
            (Config.load Bench.disk ⟨none, none⟩ (moveInto "setup").config twoLogs).1
            (Config.load Bench.disk ⟨none, none⟩ (moveInto "setup").config twoLogs).2 q ∧
          q.write = twoLogsSwapped ∧
          ((Bench.station ⟨none, none⟩ id 0).perform (moveInto "setup") twoLogs).2.tree.read "program.json" =
            .ok q.write) ∧
      ((Bench.station ⟨none, none⟩ id 0).perform (moveInto "a") twoLogs).1 = 2 ∧
      ((Bench.station ⟨none, none⟩ id 0).perform (moveInto "a") twoLogs).2.err =
        "Error: a has no inner snap point for b\n" ∧
      ((Bench.station ⟨none, none⟩ id 0).perform (moveInto "a") twoLogs).2.tree.read "program.json" =
        twoLogs.tree.read "program.json" := by
  have hedited (onto : String) : (moveInto onto).command.edited? = some "program.json" := rfl
  obtain ⟨hcommits, hswapped⟩ := perform_moveInto_setup
  obtain ⟨hrefuses, herror⟩ := perform_moveInto_log
  refine ⟨hedited, ⟨hcommits, ?_⟩, hrefuses, herror, ?_⟩
  · -- the theorem at the move that is committed: the file is what was saved
    rcases (saves_or_keeps_of_perform ⟨none, none⟩ id 0 (hedited "setup") twoLogs).1 with
      ⟨-, -, q, hsaves, hread⟩ | ⟨f, -, hcode, hne, -⟩
    · have hwrite : q.write = twoLogsSwapped := Except.ok.inj (hread.symm.trans hswapped)
      exact ⟨q, hsaves, hwrite, hread⟩
    · exact absurd (hcode.symm.trans hcommits) hne
  · have hstart : (Config.load Bench.disk ⟨none, none⟩ (moveInto "a").config twoLogs).2 = twoLogs := by
      decide +kernel
    -- and at the one that is refused: the file is what it was
    rcases (saves_or_keeps_of_perform ⟨none, none⟩ id 0 (hedited "a") twoLogs).1 with
      ⟨-, hsuccess, -⟩ | ⟨f, -, -, -, -, -, hkept⟩
    · exact absurd (hsuccess.symm.trans hrefuses) (by decide)
    · rwa [hstart] at hkept

end CommandLine

end Signalbox
