import Signalbox.Proofs.CommandLine.Bench
import Signalbox.Proofs.Editor.Sound

/-!
# Programs that commands save

Two commands edit a stored program: one adds a block to it and one moves blocks inside it. Each of them loads
the program, edits it and saves it, and neither looks at whether what it saves can be loaded again. It can be
unless a block was added at a position that is not finite, or blocks were moved too far inside each other.

Main results:

* `Station.leads_addBlock` / `Station.leads_moveBlock`: what the commands save.
* `reloads_iff_of_perform`: when it is loaded again.
-/

namespace Signalbox.CommandLine

/-- The file of the program that a command edits. -/
def Command.edited? : Command → Option String
  | .add path .. => some path
  | .move path .. => some path
  | _ => none

/-- The program that a command puts in the file of the program that it edits, with a configuration, from a
bench and with the numbers that are drawn there. A move puts there what the diagram of the program is after the
blocks were split off and committed. -/
inductive Command.Saves (numbers : Nat → Nat) (config : Except ConfigError Config) (b : Bench) :
    Command → Program → Prop where
  | add {path : String} {type : BlockType} {fields : NewFields} {c : Config} {p : Program} {kind : Kind} :
    config = .ok c → type ≠ .dummy → (Program.load Bench.disk path b).1 = .ok p → fields.kind type = .ok kind →
      Saves numbers config b (.add path type fields)
        ((Diagram.ofProgram p c.settings.spawnPosition).addBlock (numbers b.draws) kind).2.program
  | move {path block onto dummy parent : String} {snap : SnapType} {p : Program} {d d' : Diagram}
    {index moved : Nat} :
    (Program.load Bench.disk path b).1 = .ok p → p.contains onto = true →
      (Diagram.ofProgram p defaultSpawnPosition).split block
        (((p.find? block).bind (·.position)).getD ⟨0, 0⟩) = (.ok dummy, d) →
      d.commit onto snap block = (.committed parent index moved, d') →
      Saves numbers config b (.move path block onto snap) d'.program

/-- What a move saves is what the moving of blocks answers. -/
theorem Command.saves_move_iff {numbers : Nat → Nat} {config : Except ConfigError Config} {b : Bench}
    {path block onto : String} {snap : SnapType} {q : Program} :
    Command.Saves numbers config b (.move path block onto snap) q ↔
      ∃ p placement, (Program.load Bench.disk path b).1 = .ok p ∧ p.move block onto snap = .ok (placement, q) := by
  constructor
  · rintro (_ | ⟨hload, honto, hsplit, hcommit⟩)
    exact ⟨_, ⟨_, _, _⟩, hload, Program.move_eq_ok_iff.mpr ⟨honto, _, _, _, hsplit, hcommit, rfl⟩⟩
  · rintro ⟨p, placement, hload, hmove⟩
    obtain ⟨honto, dummy, d, d', hsplit, hcommit, rfl⟩ := Program.move_eq_ok_iff.mp hmove
    exact .move hload honto hsplit hcommit

/-! ## Failures -/

theorem ExitCode.toInt_ne (code : ExitCode) (h : code ≠ .success) : code.toInt ≠ ExitCode.success.toInt := by
  revert h
  cases code <;> decide

theorem code_program_ne (e : ProgramError) : (Cause.program e).code ≠ ExitCode.success.toInt :=
  ExitCode.toInt_ne .program (by decide)

/-- The exit code of a move that is refused is not that of success. -/
theorem code_ofMove_ne (e : MoveError) : (Cause.ofMove e).code ≠ ExitCode.success.toInt := by
  cases e with
  | edit | rejected | noAnchor => exact ExitCode.toInt_ne .arguments (by decide)
  | nothing => exact ExitCode.toInt_ne .general (by decide)

/-- A field that is needed is there, or the arguments are refused. -/
theorem eq_refuse_of_needed {name : String} {field : Option String} {f : Failure}
    (h : needed name field = .error f) : ∃ message, f = refuse .arguments message := by
  cases field with
  | some value => cases h
  | none => exact ⟨_, (Except.error.inj h).symm⟩

/-- A kind that cannot be made refuses the arguments. -/
theorem eq_refuse_of_kind {fields : NewFields} {type : BlockType} {f : Failure} (h : fields.kind type = .error f) :
    ∃ message, f = refuse .arguments message := by
  cases type with
  | deviceSet =>
    rcases bind_eq_error.mp h with hdevice | ⟨device, -, h⟩
    · exact eq_refuse_of_needed hdevice
    rcases bind_eq_error.mp h with hprop | ⟨prop, -, h⟩
    · exact eq_refuse_of_needed hprop
    · cases h
  | _ => cases h

/-- Its exit code tells so. -/
theorem code_of_kind {fields : NewFields} {type : BlockType} {f : Failure} (h : fields.kind type = .error f) :
    f.code ≠ ExitCode.success.toInt := by
  obtain ⟨message, rfl⟩ := eq_refuse_of_kind h
  exact ExitCode.toInt_ne .arguments (by decide)

/-! ## New kinds -/

/-- A value from the command line can be stored. -/
theorem storable_of_readValue {text : String} {value : Scalar} (h : readValue text = value) :
    value.Storable := by
  -- a value that reads as a number is one, and any other is a text
  unfold readValue at h
  split at h
  next n hread =>
    obtain rfl := h
    exact Json.inRange_of_mem_numbers hread n (List.mem_singleton_self n)
  · obtain rfl := h
    trivial

/-- A kind that the command line describes has no children and a storable scalar. -/
theorem isPlain_of_kind {fields : NewFields} {type : BlockType} {kind : Kind}
    (h : fields.kind type = .ok kind) : kind.IsPlain := by
  -- a value is one that was given, or the default of the type
  have hvalue : ∀ default value : Scalar, default.Storable →
      some ((fields.value.map readValue).getD default) = some value → value.Storable := by
    intro default value hdefault hsome
    cases hgiven : fields.value with
    | none =>
      rw [hgiven, Option.map_none, Option.getD_none] at hsome
      exact Option.some.inj hsome ▸ hdefault
    | some text =>
      rw [hgiven, Option.map_some, Option.getD_some] at hsome
      exact storable_of_readValue (Option.some.inj hsome)
  cases type with
  | once | forever | loop | branch | dummy =>
    obtain rfl := Except.ok.inj h
    rfl
  | wait =>
    obtain rfl := Except.ok.inj h
    exact nofun
  | sleep =>
    obtain rfl := Except.ok.inj h
    exact fun value => hvalue _ value Block.storable_defaultSleep
  | log | alert =>
    obtain rfl := Except.ok.inj h
    exact fun value => hvalue _ value trivial
  | deviceSet =>
    obtain ⟨device, -, h⟩ := bind_eq_ok.mp h
    obtain ⟨prop, -, h⟩ := bind_eq_ok.mp h
    obtain rfl := Except.ok.inj h
    exact fun value => hvalue _ value trivial

namespace Station

variable {b : Bench} {place : ConfigPlace} {numbers : Nat → Nat} {patience : Nat} {mode : OutputMode}

/-! ## Steps -/

/-- A configuration that is needed is there. -/
theorem leads_config (config : Except ConfigError Config) :
    Leads (liftM (requireConfig config)) b fun c b' => config = .ok c ∧ b' = b := by
  cases config with
  | ok c => exact ⟨rfl, rfl⟩
  | error e => exact Leads.throw (ExitCode.toInt_ne .config (by decide))

/-- The program of the file is loaded. -/
theorem leads_load (path : String) :
    Leads (attempt .program (Program.load Bench.disk path)) b fun p b' =>
      (Program.load Bench.disk path b).1 = .ok p ∧ b' = b := by
  refine (Leads.attempt code_program_ne _).mono fun p b' hload => ?_
  rw [Bench.load_eq] at hload ⊢
  obtain ⟨hp, rfl⟩ := Prod.mk.inj hload
  exact ⟨hp, rfl⟩

/-- The blocks are moved in memory. -/
theorem leads_move (p : Program) (block onto : String) (snap : SnapType) :
    Leads (liftM (orFail Cause.ofMove (p.move block onto snap))) b fun result b' =>
      p.move block onto snap = .ok result ∧ b' = b :=
  Leads.of_orFail code_ofMove_ne _

/-- What a program is saved as stays in its file while the result is written to the output. -/
theorem leads_save_result (p : Program) (path text : String) (json : Json) :
    Leads (do
      attempt .program (p.save Bench.disk path)
      liftM (Bench.console.result mode json text)) b fun _ b' => b'.tree.read path = .ok p.write := by
  refine (Leads.attempt code_program_ne _).bind fun _ b₁ hsave => ?_
  refine (Leads.of_action _).mono fun _ b₂ hresult => ?_
  have htree := Bench.tree_result mode json text b₁
  rw [hresult] at htree
  rw [htree]
  exact Bench.read_of_save hsave

/-! ## Commands -/

/-- An addition leaves the text of what it put together in the file. -/
theorem leads_addBlock (config : Except ConfigError Config) (path : String) (type : BlockType)
    (fields : NewFields) :
    Leads ((Bench.station place numbers patience).addBlock mode config path type fields) b fun _ b' =>
      ∃ q, Command.Saves numbers config b (.add path type fields) q ∧
        b'.tree.read path = .ok q.write := by
  unfold addBlock
  refine (leads_config config).bind ?_
  rintro c b ⟨hconfig, rfl⟩
  dsimp only
  split_ifs with hdummy
  · exact Leads.throw (ExitCode.toInt_ne .arguments (by decide))
  refine (leads_load path).bind ?_
  rintro p b ⟨hload, rfl⟩
  refine (Leads.of_except fun f => code_of_kind).bind ?_
  rintro kind b ⟨hkind, rfl⟩
  refine (Leads.of_action _).bind ?_
  intro drawn b₁ hdraw
  obtain ⟨rfl, rfl⟩ := Prod.mk.inj hdraw
  -- the id was drawn, and the new program is saved
  exact (leads_save_result _ path _ _).mono fun _ _ hread =>
    ⟨_, .add hconfig hdummy hload hkind, hread⟩

/-- So does a move. -/
theorem leads_moveBlock (config : Except ConfigError Config) (path block onto : String)
    (snap : SnapType) :
    Leads ((Bench.station place numbers patience).moveBlock mode path block onto snap) b fun _ b' =>
      ∃ q, Command.Saves numbers config b (.move path block onto snap) q ∧
        b'.tree.read path = .ok q.write := by
  unfold moveBlock
  refine (leads_load path).bind ?_
  rintro p b ⟨hload, rfl⟩
  refine (leads_move p block onto snap).bind ?_
  rintro ⟨placement, q⟩ b ⟨hmove, rfl⟩
  exact (leads_save_result q path _ _).mono fun _ _ hread =>
    ⟨q, Command.saves_move_iff.mpr ⟨p, placement, hload, hmove⟩, hread⟩

/-- A command that edits a program leaves the text of what it put together in the file. -/
theorem leads_execute {inv : Invocation} {path : String} (hedited : inv.command.edited? = some path)
    (config : Except ConfigError Config) :
    Leads ((Bench.station place numbers patience).execute inv mode config) b fun _ b' =>
      ∃ q, inv.command.Saves numbers config b q ∧ b'.tree.read path = .ok q.write := by
  unfold execute
  cases hcommand : inv.command with
  | add path' type fields =>
    rw [hcommand] at hedited
    obtain rfl := Option.some.inj hedited
    exact leads_addBlock config path' type fields
  | move path' block onto snap =>
    rw [hcommand] at hedited
    obtain rfl := Option.some.inj hedited
    exact leads_moveBlock config path' block onto snap
  | _ =>
    rw [hcommand] at hedited
    cases hedited

end Station

/-! ## Loading again -/

/-- What a command has to keep to, so that the program that it saves can be loaded again. -/
def Command.Reloads (config : Except ConfigError Config) (q : Program) : Command → Prop
  | .add .. => ∃ c, config = .ok c ∧ c.settings.spawnPosition.IsFinite
  | .move .. => 2 * Block.levelsIn q.blocks < Json.depthLimit
  | _ => True

/-- What a command saves is read again exactly if the command kept to what that takes. -/
theorem Command.Saves.read_write_iff {numbers : Nat → Nat} {config : Except ConfigError Config} {b : Bench}
    {command : Command} {q : Program} (h : command.Saves numbers config b q)
    (hfloats : ∀ x, .float x ∈ q.toJson.numbers →
      Json.read (Json.num (.float x)).compact = .ok (.num (.float x))) :
    Program.read q.write = .ok q ↔ command.Reloads config q := by
  rw [Program.read_write_iff hfloats]
  have hsaves := h
  cases h with
  -- an addition is sound exactly if the position is, since the new block is plain
  | @add path type fields c p kind hconfig _ hload hkind =>
    rw [Diagram.sound_addBlock_iff (Bench.sound_of_load hload) (by decide) (isPlain_of_kind hkind)]
    refine ⟨fun hfinite => ⟨c, hconfig, hfinite⟩, fun ⟨c', hconfig', hfinite⟩ => ?_⟩
    obtain rfl := Except.ok.inj (hconfig.symm.trans hconfig')
    exact hfinite
  -- a move leaves the blocks as they are, so only their depth counts
  | move =>
    obtain ⟨p, placement, hload, hmove⟩ := Command.saves_move_iff.mp hsaves
    rw [Program.sound_move_iff (Bench.sound_of_load hload) hmove]
    exact Nat.lt_succ_iff.symm

/-- When a command that edits a program succeeds, the file of the program holds what the command put together,
and that program is loaded from it exactly if the spawn position of an addition was finite, or if a move has
not left 64 blocks inside each other. -/
theorem reloads_iff_of_perform (place : ConfigPlace) (numbers : Nat → Nat) (patience : Nat) {inv : Invocation}
    {path : String} {b b' : Bench} (hedited : inv.command.edited? = some path)
    (h : (Bench.station place numbers patience).perform inv b = (0, b')) :
    let start := Config.load Bench.disk place inv.config b
    ∃ q, inv.command.Saves numbers start.1 start.2 q ∧ b'.tree.read path = .ok q.write ∧
      ((∀ x, .float x ∈ q.toJson.numbers →
          Json.read (Json.num (.float x)).compact = .ok (.num (.float x))) →
        ((Program.load Bench.disk path b').1 = .ok q ↔ inv.command.Reloads start.1 q)) := by
  intro start
  obtain ⟨q, hsaves, hread⟩ := of_perform_eq_success h (Station.leads_execute hedited start.1)
  -- the file holds the text of the program, so that loading it is reading this text
  refine ⟨q, hsaves, hread, fun hfloats => ?_⟩
  rw [← hsaves.read_write_iff hfloats, Bench.load_eq_ok_iff, hread]
  exact ⟨fun ⟨_, htext, hp⟩ => Except.ok.inj htext ▸ hp, fun hp => ⟨_, rfl, hp⟩⟩

/-! ## A new block at infinity -/

/-- A configuration that puts new blocks at infinity, and a program without blocks. -/
def boundless : Bench :=
  .ofTree ⟨[(["config.json"], .file "\x7bsettings:\x7bspawn_position:\x7bx:Infinity,y:Infinity\x7d\x7d\x7d"),
    (["program.json"], .file "[]")]⟩

/-- Adds a log block to that program with that configuration. -/
def addLog : Invocation :=
  { config := some "config.json", json := false, quiet := false, verbose := false
    command := .add "program.json" .log {} }

theorem code_perform_boundless : ((Bench.station ⟨none, none⟩ id 0).perform addLog boundless).1 = 0 := by
  decide +kernel

theorem spawnPosition_boundless :
    (Config.load Bench.disk ⟨none, none⟩ addLog.config boundless).1.toOption.map (fun c =>
      (c.settings.spawnPosition.x.isFinite, c.settings.spawnPosition.y.isFinite)) = some (false, false) := by
  decide +kernel

theorem isEmpty_boundless :
    (Program.load Bench.disk "program.json"
      (Config.load Bench.disk ⟨none, none⟩ addLog.config boundless).2).1.toOption.map (·.blocks.isEmpty) =
        some true := by
  decide +kernel

/-- Neither coordinate of the position is a number of the document that is saved. -/
theorem numbers_of_saves_boundless {q : Program}
    (h : addLog.command.Saves id (Config.load Bench.disk ⟨none, none⟩ addLog.config boundless).1
      (Config.load Bench.disk ⟨none, none⟩ addLog.config boundless).2 q) : q.toJson.numbers = [] := by
  have hspawn := spawnPosition_boundless
  have hempty := isEmpty_boundless
  generalize Config.load Bench.disk ⟨none, none⟩ addLog.config boundless = start at h hspawn hempty
  cases h with
  | @add _ _ _ c p kind hconfig _ hload hkind =>
    rw [hconfig] at hspawn
    rw [hload] at hempty
    obtain ⟨hx, hy⟩ := Prod.mk.inj (Option.some.inj hspawn)
    obtain rfl := Except.ok.inj hkind
    -- the program was empty, so all there is is the new block in its holder
    have hblocks : p.blocks = [] := List.isEmpty_iff.mp (Option.some.inj hempty)
    generalize c.settings.spawnPosition = position at hx hy ⊢
    have hposition : position.toJson = .map [("x", .null), ("y", .null)] := by
      simp [Position.toJson, Json.ofFloat, hx, hy]
    show Json.numbersOfItems (Block.toItems (p.blocks ++
      [.container _ (some position) .dummy [.statement _ none (.log (.text ""))]])) = []
    rw [hblocks]
    simp [Block.toItems, Block.toJson, Block.headFields, Block.containerFields, Block.statementFields,
      Json.numbersOfItems, Json.numbers, Json.numbersOfEntries, Scalar.toJson, hposition]

/-- The command succeeds, and the program that it saves is not loaded again. -/
theorem reloads_iff_of_perform_boundless :
    ∃ (b' : Bench) (q : Program), (Bench.station ⟨none, none⟩ id 0).perform addLog boundless = (0, b') ∧
      b'.tree.read "program.json" = .ok q.write ∧
      (∀ x, .float x ∈ q.toJson.numbers → Json.read (Json.num (.float x)).compact = .ok (.num (.float x))) ∧
      (Program.load Bench.disk "program.json" b').1 ≠ .ok q := by
  have hcode := code_perform_boundless
  have hspawn := spawnPosition_boundless
  cases hperform : (Bench.station ⟨none, none⟩ id 0).perform addLog boundless with
  | mk code b' =>
    rw [hperform] at hcode
    obtain rfl : code = 0 := hcode
    obtain ⟨q, hsaves, hread, hiff⟩ := reloads_iff_of_perform ⟨none, none⟩ id 0 rfl hperform
    -- the position is written as null, so no number is left to reread
    have hfloats : ∀ x, .float x ∈ q.toJson.numbers →
        Json.read (Json.num (.float x)).compact = .ok (.num (.float x)) := by
      intro x hx
      rw [numbers_of_saves_boundless hsaves] at hx
      exact nomatch hx
    refine ⟨b', q, rfl, hread, hfloats, fun hload => ?_⟩
    -- the file loads only when the configured position is finite
    obtain ⟨c, hconfig, hfinite, -⟩ := (hiff hfloats).mp hload
    rw [hconfig] at hspawn
    have hx := (Prod.mk.inj (Option.some.inj hspawn)).1
    rw [hfinite] at hx
    cases hx

end Signalbox.CommandLine
