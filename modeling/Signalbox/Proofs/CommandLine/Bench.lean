import Signalbox.CommandLine.Bench
import Signalbox.Proofs.Files.Draft
import Signalbox.Proofs.Program.Document

/-!
# Commands on a bench

`Leads` says of a step of a command on a bench what comes of it when it succeeds, and that its exit code is
not that of success when it fails. `Fails` says what comes of it when it fails. Either holds of a command when it
holds of each of its steps.

Main results:

* `of_perform_eq_success`: what comes of an invocation whose exit code is that of success.
* `Bench.read_of_save`: the file of a program that was saved.
* `Bench.read_of_save_eq_error` / `Bench.disk_of_save_eq_error`: the file of a program that could not be saved, and
  why it could not.
* `Bench.read_load_config`: the files after the configuration was read.
* `Bench.read_of_saveConfig` / `Bench.load_config_of_read`: the file of a configuration that was saved.
-/

namespace Signalbox.CommandLine

variable {α β ε : Type} {b b' : Bench}

/-- A step of a command on a bench leads to an answer and a bench as said, or it fails and the exit code tells
so. -/
def Leads (x : ExceptT Failure (StateM Bench) α) (b : Bench) (post : α → Bench → Prop) : Prop :=
  match (x.run b).1 with
  | .ok a => post a (x.run b).2
  | .error f => f.code ≠ ExitCode.success.toInt

/-- The second step begins with the answer and the bench of the first one. -/
theorem run_bind (x : StateM Bench α) (next : α → StateM Bench β) (b : Bench) :
    (x >>= next) b = next (x b).1 (x b).2 :=
  rfl

namespace Leads

variable {post : α → Bench → Prop}

/-- What follows a step. -/
theorem bind {x : ExceptT Failure (StateM Bench) β} {next : β → ExceptT Failure (StateM Bench) α}
    {mid : β → Bench → Prop} (hx : Leads x b mid) (hnext : ∀ a b', mid a b' → Leads (next a) b' post) :
    Leads (x >>= next) b post := by
  have hrun : (x >>= next).run b = ExceptT.bindCont next (x.run b).1 (x.run b).2 := rfl
  unfold Leads at hx ⊢
  rw [hrun]
  -- the first step has gone well and the second follows, or it has failed and nothing does
  cases houtcome : (x.run b).1 with
  | ok a =>
    rw [houtcome] at hx
    exact hnext a _ hx
  | error f =>
    rw [houtcome] at hx
    exact hx

theorem mono {x : ExceptT Failure (StateM Bench) α} {post' : α → Bench → Prop} (h : Leads x b post)
    (hpost : ∀ a b', post a b' → post' a b') : Leads x b post' := by
  unfold Leads at h ⊢
  split
  next a houtcome =>
    rw [houtcome] at h
    exact hpost a _ h
  next f houtcome =>
    rw [houtcome] at h
    exact h

/-- A step that has gone well led where it was said to. -/
theorem of_ok {x : ExceptT Failure (StateM Bench) α} {a : α} (h : Leads x b post)
    (hrun : x.run b = (.ok a, b')) : post a b' := by
  unfold Leads at h
  rwa [hrun] at h

/-- The exit code of a step that has failed tells so. -/
theorem of_error {x : ExceptT Failure (StateM Bench) α} {f : Failure} (h : Leads x b post)
    (hrun : x.run b = (.error f, b')) : f.code ≠ ExitCode.success.toInt := by
  unfold Leads at h
  rwa [hrun] at h

theorem throw {f : Failure} (h : f.code ≠ ExitCode.success.toInt) :
    Leads (MonadExcept.throw f : ExceptT Failure (StateM Bench) α) b post :=
  h

/-- A step that does not look at the bench. -/
theorem of_except {outcome : Except Failure α}
    (h : ∀ f, outcome = .error f → f.code ≠ ExitCode.success.toInt) :
    Leads (liftM outcome) b fun a b' => outcome = .ok a ∧ b' = b := by
  cases outcome with
  | ok a => exact ⟨rfl, rfl⟩
  | error f => exact h f rfl

/-- A step that does not look at the bench and whose errors have causes. -/
theorem of_orFail {cause : ε → Cause} (h : ∀ e, (cause e).code ≠ ExitCode.success.toInt) (outcome : Except ε α) :
    Leads (liftM (orFail cause outcome)) b fun a b' => outcome = .ok a ∧ b' = b := by
  cases outcome with
  | ok a => exact ⟨rfl, rfl⟩
  | error e => exact throw (h e)

/-- A step that cannot fail. -/
theorem of_action (action : StateM Bench α) : Leads (liftM action) b fun a b' => action b = (a, b') :=
  rfl

/-- A step that may go wrong. -/
theorem attempt {cause : ε → Cause} (h : ∀ e, (cause e).code ≠ ExitCode.success.toInt)
    (action : StateM Bench (Except ε α)) :
    Leads (Station.attempt cause action) b fun a b' => action b = (.ok a, b') := by
  have hrun : (Station.attempt cause action).run b = (orFail cause (action b).1, (action b).2) := rfl
  unfold Leads
  rw [hrun]
  cases houtcome : (action b).1 with
  | ok a => exact Prod.ext houtcome rfl
  | error e => exact h e

end Leads

/-- When a step of a command on a bench fails, the failure and the bench are as said. -/
def Fails (x : ExceptT Failure (StateM Bench) α) (b : Bench) (post : Failure → Bench → Prop) : Prop :=
  ∀ f, (x.run b).1 = .error f → post f (x.run b).2

namespace Fails

variable {post : Failure → Bench → Prop}

/-- Two steps fail when the first one does, or when the second one does after the first one has succeeded. -/
theorem bind {x : ExceptT Failure (StateM Bench) β} {next : β → ExceptT Failure (StateM Bench) α}
    {mid : β → Bench → Prop} (hx : Fails x b post) (hleads : Leads x b mid)
    (hnext : ∀ a b', mid a b' → Fails (next a) b' post) : Fails (x >>= next) b post := by
  have hrun : (x >>= next).run b = ExceptT.bindCont next (x.run b).1 (x.run b).2 := rfl
  unfold Leads at hleads
  intro f
  rw [hrun]
  cases houtcome : (x.run b).1 with
  | ok a =>
    rw [houtcome] at hleads
    exact hnext a _ hleads f
  | error f' =>
    intro h
    obtain rfl := Except.error.inj h
    exact hx f' houtcome

/-- A failure is as said. -/
theorem throw {f : Failure} (h : post f b) :
    Fails (MonadExcept.throw f : ExceptT Failure (StateM Bench) α) b post := by
  rintro f' ⟨⟩
  exact h

/-- A step that does not look at the bench. -/
theorem of_except {outcome : Except Failure α} (h : ∀ f, outcome = .error f → post f b) :
    Fails (liftM outcome) b post := by
  cases outcome with
  | ok a => exact fun _ hf => nomatch hf
  | error f => exact throw (h f rfl)

/-- A step that cannot fail. -/
theorem of_action (action : StateM Bench α) : Fails (liftM action) b post :=
  fun _ h => nomatch h

/-- A step that may go wrong. -/
theorem attempt {cause : ε → Cause} {action : StateM Bench (Except ε α)}
    (h : ∀ e, (action b).1 = .error e → post (.ofCause (cause e)) (action b).2) :
    Fails (Station.attempt cause action) b post := by
  have hrun : (Station.attempt cause action).run b = (orFail cause (action b).1, (action b).2) := rfl
  unfold Fails
  rw [hrun]
  cases houtcome : (action b).1 with
  | ok a => exact fun _ hf => nomatch hf
  | error e =>
    rintro f ⟨⟩
    exact h e houtcome

end Fails

section Invocations

variable {station : Station (StateM Bench)} {inv : Invocation}

/-- The configuration is read, and the command succeeds. -/
theorem perform_of_ok {start : Except ConfigError Config × Bench}
    (hstart : Config.load station.disk station.place inv.config b = start)
    (h : (station.execute inv (OutputMode.ofFlags inv.json inv.quiet) start.1).run start.2 = (.ok (), b')) :
    station.perform inv b = (ExitCode.success.toInt, b') := by
  unfold Station.perform
  rw [run_bind, run_bind, hstart, h]
  rfl

/-- The configuration is read, and the failure of the command is written. -/
theorem perform_of_error {start : Except ConfigError Config × Bench} {f : Failure}
    (hstart : Config.load station.disk station.place inv.config b = start)
    (h : (station.execute inv (OutputMode.ofFlags inv.json inv.quiet) start.1).run start.2 = (.error f, b')) :
    station.perform inv b =
      (f.code, (station.console.failure (OutputMode.ofFlags inv.json inv.quiet) f b').2) := by
  unfold Station.perform
  rw [run_bind, run_bind, hstart, h]
  rfl

/-- What comes of an invocation whose exit code is that of success: its command succeeded. -/
theorem of_perform_eq_success {post : Unit → Bench → Prop}
    (h : station.perform inv b = (ExitCode.success.toInt, b'))
    (hleads : Leads (station.execute inv (OutputMode.ofFlags inv.json inv.quiet)
        (Config.load station.disk station.place inv.config b).1)
      (Config.load station.disk station.place inv.config b).2 post) : post () b' := by
  cases hrun : (station.execute inv (OutputMode.ofFlags inv.json inv.quiet)
      (Config.load station.disk station.place inv.config b).1).run
      (Config.load station.disk station.place inv.config b).2 with
  | mk outcome after =>
    cases outcome with
    | ok a =>
      obtain rfl := (Prod.mk.inj ((perform_of_ok rfl hrun).symm.trans h)).2
      exact hleads.of_ok hrun
    -- a failure has another exit code
    | error f => exact absurd (Prod.mk.inj ((perform_of_error rfl hrun).symm.trans h)).1 (hleads.of_error hrun)

end Invocations

namespace Bench

/-! ## The disk of a bench -/

/-- A program is loaded from the text of its file, and the bench stays as it is. -/
theorem load_eq (path : String) (b : Bench) :
    Program.load disk path b = (match b.tree.read path with
      | .error e => .error (ProgramError.disk path e)
      | .ok text => (Program.read text).mapError ProgramError.malformed, b) := by
  unfold Program.load
  rw [run_bind]
  show (match b.tree.read path with | .error e => _ | .ok text => _ : StateM Bench _) b = _
  cases b.tree.read path <;> rfl

/-- A program is loaded if its file can be read and its text is that of the program. -/
theorem load_eq_ok_iff {path : String} {p : Program} :
    (Program.load disk path b).1 = .ok p ↔
      ∃ text, b.tree.read path = .ok text ∧ Program.read text = .ok p := by
  rw [load_eq]
  cases b.tree.read path with
  | error e => exact ⟨nofun, fun ⟨_, h, _⟩ => nomatch h⟩
  | ok text =>
    show (Program.read text).mapError _ = .ok p ↔ _
    rw [mapError_eq_ok]
    refine ⟨fun hread => ⟨text, rfl, hread⟩, fun ⟨text', htext, hread⟩ => ?_⟩
    obtain rfl := Except.ok.inj htext
    exact hread

/-- A program that was loaded is sound. -/
theorem sound_of_load {path : String} {p : Program} (h : (Program.load disk path b).1 = .ok p) :
    Block.Sound (Json.depthLimit - 1) p.blocks := by
  obtain ⟨text, -, hread⟩ := load_eq_ok_iff.mp h
  exact Program.sound_of_read hread

/-- A change of the files that was made left the tree that it asked for. -/
theorem of_change_eq_ok {outcome : FileTree → Except DiskError FileTree}
    (h : (onTree (fun t => FileTree.change (outcome t) t) b).1 = .ok ()) :
    outcome b.tree = .ok (onTree (fun t => FileTree.change (outcome t) t) b).2.tree := by
  unfold onTree FileTree.change at h ⊢
  dsimp only at h ⊢
  cases houtcome : outcome b.tree with
  | error e =>
    rw [houtcome] at h
    cases h
  | ok t => rfl

/-- A file holds the text that was written to it. -/
theorem read_of_write {path text : String} (h : (disk.write path text b).1 = .ok ()) :
    (disk.write path text b).2.tree.read path = .ok text :=
  FileTree.read_of_write (of_change_eq_ok h)

/-- A file that was renamed holds under its new name what it held under the old one. -/
theorem read_of_rename {source target : String} (h : (disk.rename source target b).1 = .ok ()) :
    (disk.rename source target b).2.tree.read target = b.tree.read source :=
  FileTree.read_of_rename (of_change_eq_ok h)

/-- What goes well after a step that may go wrong tells that this step went well. -/
theorem exists_of_run_bind {δ : Type} {x : StateM Bench (Except ε α)} {next : Except ε α → StateM Bench (Except δ β)}
    {r : β} (h : ((x >>= next) b).1 = .ok r) (herror : ∀ e b', (next (.error e) b').1 ≠ .ok r) :
    ∃ a, (x b).1 = .ok a ∧ (x >>= next) b = next (.ok a) (x b).2 := by
  rw [run_bind] at h ⊢
  cases hx : (x b).1 with
  | error e =>
    rw [hx] at h
    exact absurd h (herror e _)
  | ok a => exact ⟨a, rfl, rfl⟩

/-- A file that was replaced holds the new text. -/
theorem read_of_replaceFile {path text : String} (h : (Program.replaceFile disk path text b).1 = .ok ()) :
    (Program.replaceFile disk path text b).2.tree.read path = .ok text := by
  unfold Program.replaceFile at h ⊢
  obtain ⟨⟨⟩, hwrite, hrun⟩ := exists_of_run_bind h fun _ _ => nofun
  rw [hrun] at h ⊢
  dsimp only at h ⊢
  obtain ⟨⟨⟩, hrename, hrun'⟩ := exists_of_run_bind h fun _ _ => nofun
  rw [hrun']
  -- the draft was written and has taken the place of the file
  exact (read_of_rename hrename).trans (read_of_write hwrite)

/-- A program is saved in place of its file, perhaps after a directory was created for it. -/
theorem save_cases (p : Program) (path : String) :
    p.save disk path = Program.replaceFile disk path p.write ∨
      ∃ directory, p.save disk path = disk.createDirectories directory >>= fun outcome =>
        match outcome with
        | .error e => return .error (.disk directory e)
        | .ok () => Program.replaceFile disk path p.write := by
  unfold Program.save
  -- without a directory in front of it the file is replaced at once
  split
  · exact Or.inl rfl
  · exact Or.inl rfl
  · exact Or.inr ⟨_, rfl⟩

/-- The file of a program that was saved holds the text that is written for it. -/
theorem read_of_save {path : String} {p : Program} (h : p.save disk path b = (.ok (), b')) :
    b'.tree.read path = .ok p.write := by
  obtain ⟨houtcome, rfl⟩ : (p.save disk path b).1 = .ok () ∧ (p.save disk path b).2 = b' := by
    rw [h]
    exact ⟨rfl, rfl⟩
  rcases save_cases p path with hsave | ⟨directory, hsave⟩
  · rw [hsave] at houtcome ⊢
    exact read_of_replaceFile houtcome
  · rw [hsave] at houtcome ⊢
    obtain ⟨⟨⟩, -, hrun⟩ := exists_of_run_bind houtcome fun _ _ => nofun
    rw [hrun] at houtcome ⊢
    exact read_of_replaceFile houtcome

/-- A file is renamed on the bench when it is in the tree. -/
theorem rename_of_tree {source target : String} {t : FileTree} (h : b.tree.rename source target = .ok t) :
    (disk.rename source target b).1 = .ok () := by
  show (FileTree.change (b.tree.rename source target) b.tree).1 = .ok ()
  rw [h]
  rfl

/-- A change of the files that was not made left the bench as it was. -/
theorem change_eq_error {outcome : FileTree → Except DiskError FileTree} {e : DiskError}
    (h : (onTree (fun t => FileTree.change (outcome t) t) b).1 = .error e) :
    (onTree (fun t => FileTree.change (outcome t) t) b).2 = b := by
  unfold onTree FileTree.change at h ⊢
  dsimp only at h ⊢
  cases houtcome : outcome b.tree with
  | error e' => rfl
  | ok t =>
    rw [houtcome] at h
    cases h

/-- New directories leave a file as it was, whether they could be made or not. -/
theorem read_createDirectories {directory path text : String} (hread : b.tree.read path = .ok text) :
    (disk.createDirectories directory b).2.tree.read path = .ok text := by
  cases hcreate : (disk.createDirectories directory b).1 with
  | error e =>
    have hsame : (disk.createDirectories directory b).2 = b := change_eq_error hcreate
    rwa [hsame]
  | ok a => exact FileTree.read_of_createDirectories (of_change_eq_ok hcreate) hread

/-- A file that could not be replaced still holds what it held. Where the file is its own draft, it can be
replaced. -/
theorem read_of_replaceFile_eq_error {path new text : String} {e : ProgramError}
    (h : (Program.replaceFile disk path new b).1 = .error e) (hread : b.tree.read path = .ok text) :
    (Program.replaceFile disk path new b).2.tree.read path = .ok text := by
  unfold Program.replaceFile at h ⊢
  rw [run_bind] at h ⊢
  generalize hdraft : Path.withEnding path Program.draftEnding = draft at h ⊢
  cases hwrite : (disk.write draft new b).1 with
  | error e' =>
    have hsame : (disk.write draft new b).2 = b := change_eq_error hwrite
    show (disk.write draft new b).2.tree.read path = .ok text
    rwa [hsame]
  | ok a =>
    -- the draft was written, and it did not take the place of the file
    have hwritten : b.tree.write draft new = .ok (disk.write draft new b).2.tree := of_change_eq_ok hwrite
    rw [hwrite] at h
    dsimp only at h ⊢
    rw [run_bind] at h ⊢
    cases hrename : (disk.rename draft path (disk.write draft new b).2).1 with
    | ok a =>
      rw [hrename] at h
      cases h
    | error e' =>
      have hsame : (disk.rename draft path (disk.write draft new b).2).2 = (disk.write draft new b).2 :=
        change_eq_error hrename
      show (disk.rename draft path (disk.write draft new b).2).2.tree.read path = .ok text
      rw [hsame]
      subst hdraft
      -- where the draft is the file itself, its new text would be there by now, but then the renaming succeeds
      refine FileTree.read_of_write_draft (fun hself => ?_) hwritten hread
      rw [hself] at hwritten hrename
      obtain ⟨t, ht⟩ := FileTree.exists_rename_self hwritten
      rw [rename_of_tree ht] at hrename
      cases hrename

/-- The file of a program that could not be saved still holds what it held. -/
theorem read_of_save_eq_error {path text : String} {p : Program} {e : ProgramError}
    (h : (p.save disk path b).1 = .error e) (hread : b.tree.read path = .ok text) :
    (p.save disk path b).2.tree.read path = .ok text := by
  rcases save_cases p path with hsave | ⟨directory, hsave⟩
  · rw [hsave] at h ⊢
    exact read_of_replaceFile_eq_error h hread
  · rw [hsave, run_bind] at h ⊢
    have hcreated : (disk.createDirectories directory b).2.tree.read path = .ok text := read_createDirectories hread
    cases hcreate : (disk.createDirectories directory b).1 with
    | error e' => exact hcreated
    | ok a =>
      rw [hcreate] at h
      exact read_of_replaceFile_eq_error h hcreated

/-- A file that could not be replaced was refused by the disk. -/
theorem disk_of_replaceFile_eq_error {path new : String} {e : ProgramError}
    (h : (Program.replaceFile disk path new b).1 = .error e) : ∃ place refusal, e = .disk place refusal := by
  unfold Program.replaceFile at h
  rw [run_bind] at h
  -- either the draft could not be written or it could not take the place of the file
  cases hwrite : (disk.write (Path.withEnding path Program.draftEnding) new b).1 with
  | error e' =>
    rw [hwrite] at h
    exact ⟨_, e', (Except.error.inj h).symm⟩
  | ok a =>
    rw [hwrite] at h
    dsimp only at h
    rw [run_bind] at h
    cases hrename : (disk.rename (Path.withEnding path Program.draftEnding) path
        (disk.write (Path.withEnding path Program.draftEnding) new b).2).1 with
    | error e' =>
      rw [hrename] at h
      exact ⟨_, e', (Except.error.inj h).symm⟩
    | ok a' =>
      rw [hrename] at h
      cases h

/-- A program that could not be saved was refused by the disk. -/
theorem disk_of_save_eq_error {path : String} {p : Program} {e : ProgramError}
    (h : (p.save disk path b).1 = .error e) : ∃ place refusal, e = .disk place refusal := by
  rcases save_cases p path with hsave | ⟨directory, hsave⟩
  · rw [hsave] at h
    exact disk_of_replaceFile_eq_error h
  · rw [hsave, run_bind] at h
    cases hcreate : (disk.createDirectories directory b).1 with
    | error e' =>
      rw [hcreate] at h
      exact ⟨_, e', (Except.error.inj h).symm⟩
    | ok a =>
      rw [hcreate] at h
      exact disk_of_replaceFile_eq_error h

/-! ## The configuration on a bench -/

/-- A file after a configuration was written, unless the configuration stands in its place. -/
theorem read_writeFile {path config text : String} (c : Config) (hread : b.tree.read path = .ok text) :
    (Config.writeFile disk config c b).2.tree.read path = .ok text ∨
      (Config.writeFile disk config c b).2.tree.resolve config =
        (Config.writeFile disk config c b).2.tree.resolve path := by
  have htree : (Config.writeFile disk config c b).2 = (disk.write config c.write b).2 := by
    unfold Config.writeFile
    rw [run_bind]
    cases (disk.write config c.write b).1 <;> rfl
  rw [htree]
  cases hwrite : (disk.write config c.write b).1 with
  | error e =>
    have hsame : (disk.write config c.write b).2 = b := change_eq_error hwrite
    rw [hsame]
    exact .inl hread
  | ok a =>
    have hwritten : b.tree.write config c.write = .ok (disk.write config c.write b).2.tree := of_change_eq_ok hwrite
    -- the configuration is in the file that is looked at, or it leaves that alone
    by_cases hsame : b.tree.resolve config = b.tree.resolve path
    · exact .inr (FileTree.resolve_eq_of_write hwritten hsame)
    · exact .inl (FileTree.read_of_write_other hwritten hsame hread)

/-- A file after a configuration was saved, unless the configuration stands in its place. -/
theorem read_saveConfig {path config text : String} (c : Config) (hread : b.tree.read path = .ok text) :
    (Config.save disk config c b).2.tree.read path = .ok text ∨
      (Config.save disk config c b).2.tree.resolve config = (Config.save disk config c b).2.tree.resolve path := by
  unfold Config.save
  cases Path.parent? config with
  | none => exact read_writeFile c hread
  | some directory =>
    dsimp only
    rw [run_bind]
    have hcreated : (disk.createDirectories directory b).2.tree.read path = .ok text := read_createDirectories hread
    cases (disk.createDirectories directory b).1 with
    | error e => exact .inl hcreated
    | ok a => exact read_writeFile c hcreated

/-- The default configuration was written in place of a file: there was no configuration, none was named on the
command line, and its path leads to where the path of the file leads. -/
def PutsConfig (place : ConfigPlace) (named : Option String) (path : String) (before after : FileTree) : Prop :=
  named = none ∧ ∃ config, place.path none = .ok config ∧ before.contains config = false ∧
    after.resolve config = after.resolve path

/-- A file after the configuration was read, which creates a missing one. -/
theorem read_load_config (place : ConfigPlace) (named : Option String) {path text : String}
    (hread : b.tree.read path = .ok text) :
    (Config.load disk place named b).2.tree.read path = .ok text ∨
      PutsConfig place named path b.tree (Config.load disk place named b).2.tree := by
  unfold Config.load
  cases hplace : place.path named with
  | error e => exact .inl hread
  | ok config =>
    have hexists : disk.exists? config b = (b.tree.contains config, b) := rfl
    dsimp only
    rw [run_bind, hexists]
    dsimp only
    -- a configuration that is there is only read, and one that is missing is not created where it was named
    split_ifs with hthere
    · unfold Config.readFile
      rw [run_bind]
      cases (disk.read config b).1 <;> exact .inl hread
    · cases named with
      | some _ => exact .inl hread
      | none =>
        have hmissing : b.tree.contains config = false := by simpa using hthere
        dsimp only
        rw [run_bind]
        have hsaved : (Config.save disk config Config.default b).2.tree.read path = .ok text ∨
            PutsConfig place none path b.tree (Config.save disk config Config.default b).2.tree :=
          (read_saveConfig Config.default hread).imp_right fun hsame => ⟨rfl, config, hplace, hmissing, hsame⟩
        cases (Config.save disk config Config.default b).1 <;> exact hsaved

/-! ## The streams of a bench -/

/-- Results are written to the output and leave the files as they are. -/
theorem tree_result (mode : OutputMode) (json : Json) (text : String) (b : Bench) :
    (console.result mode json text b).2.tree = b.tree := by
  cases mode <;> rfl

theorem tree_errorLines (lines : List String) (b : Bench) : (console.errorLines lines b).2.tree = b.tree := by
  induction lines generalizing b with
  | nil => rfl
  | cons line rest ih =>
    rw [Console.errorLines, run_bind]
    exact ih _

/-- Failures are written to the streams and leave the files as they are. -/
theorem tree_failure (mode : OutputMode) (f : Failure) (b : Bench) : (console.failure mode f b).2.tree = b.tree := by
  cases mode with
  | json => rfl
  | text | quiet => exact tree_errorLines _ b

end Bench

end Signalbox.CommandLine
